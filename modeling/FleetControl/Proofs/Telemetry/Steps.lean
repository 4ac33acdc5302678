import FleetControl.Proofs.Telemetry.Oversized

namespace FleetControl.Telemetry

variable {data : List String} {raw bytes : List UInt8} {raws : List (List UInt8)}

namespace Decoder

theorem next_line_yielded (h : lineFeed ∉ raw) (hw : weight (Stream.collect data raw) ≤ maxEventSize)
    (bytes : List UInt8) :
    (Stream.yielded data raw = [] ∧
      (holding data (raw ++ lineFeed :: bytes)).next = (holding (Stream.collect data raw) bytes).next) ∨
    ∃ result, Stream.yielded data raw = [result] ∧
      (holding data (raw ++ lineFeed :: bytes)).next =
        (result.map some, holding (Stream.collect data raw) bytes) := by
  have hn := next_line h hw bytes
  unfold Stream.yielded
  cases hl : Line.ofBytes (Stream.trimmed raw) with
  | blank =>
    rw [hl] at hn
    rw [Stream.collect_blank hl]
    by_cases hd : data = []
    · exact Or.inl ⟨if_pos hd, hn.trans (if_pos hd)⟩
    · exact Or.inr ⟨_, if_neg hd, hn.trans (if_neg hd)⟩
  | data value =>
    rw [hl] at hn
    rw [Stream.collect_data hl]
    exact Or.inl ⟨rfl, hn⟩
  | passedOver =>
    rw [hl] at hn
    rw [Stream.collect_passedOver hl]
    exact Or.inl ⟨rfl, hn⟩
  | malformed =>
    rw [hl] at hn
    rw [Stream.collect_malformed hl]
    exact Or.inr ⟨_, rfl, hn⟩

inductive Stepped (data : List String) (bytes : List UInt8) :
    Except EventError (Option String) × Decoder → Prop
  | quiet {raws : List (List UInt8)} {rest : List UInt8} : Stream.lines bytes = raws →
      Stream.tail bytes = rest → Stream.read data raws = [] → Fits data raws →
      rest.length + weight (raws.foldl Stream.collect data) ≤ maxEventSize →
        Stepped data bytes (.ok none, holding (raws.foldl Stream.collect data) rest)
  | told {raws : List (List UInt8)} {raw rest : List UInt8} {result : Except EventError String} :
      Stream.lines bytes = raws ++ raw :: Stream.lines rest → Stream.tail bytes = Stream.tail rest →
      Stream.read data raws = [] → Fits data (raws ++ [raw]) →
      Stream.yielded (raws.foldl Stream.collect data) raw = [result] →
        Stepped data bytes
          (result.map some, holding ((raws ++ [raw]).foldl Stream.collect data) rest)
  | refused {raws : List (List UInt8)} {size : ℕ} : Refusal data bytes raws size →
      Stream.read data raws = [] → Stepped data bytes (.error (.tooLarge size), empty)

theorem Stepped.cons {result : Except EventError (Option String)} {d : Decoder} (h : lineFeed ∉ raw)
    (hw : weight (Stream.collect data raw) ≤ maxEventSize) (hy : Stream.yielded data raw = [])
    (hs : Stepped (Stream.collect data raw) bytes (result, d)) :
    Stepped data (raw ++ lineFeed :: bytes) (result, d) := by
  have hread (raws : List (List UInt8)) (hr : Stream.read (Stream.collect data raw) raws = []) :
      Stream.read data (raw :: raws) = [] := by
    rw [Stream.read_cons_eq, hy, hr]
    rfl
  cases hs with
  | quiet hl ht hr hf hle =>
    exact .quiet ((Stream.lines_line h bytes).trans (congrArg _ hl))
      ((Stream.tail_line h bytes).trans ht) (hread _ hr) ⟨hw, hf⟩ hle
  | @told raws last rest result hl ht hr hf hy' =>
    have hlines : Stream.lines (raw ++ lineFeed :: bytes) =
        (raw :: raws) ++ last :: Stream.lines rest :=
      (Stream.lines_line h bytes).trans (congrArg _ hl)
    exact .told hlines ((Stream.tail_line h bytes).trans ht) (hread _ hr) ⟨hw, hf⟩ hy'
  | refused hr hr' => exact .refused ((refusal_line h hw).mpr ⟨_, rfl, hr⟩) (hread _ hr')

theorem stepped (bytes : List UInt8) (hw : weight data ≤ maxEventSize) :
    Stepped data bytes (holding data bytes).next := by
  induction bytes using lines_induction generalizing data with
  | tail bytes h =>
    have hl := Stream.lines_of_not_mem h
    have ht := Stream.tail_of_not_mem h
    by_cases hs : maxEventSize < bytes.length + weight data
    · rw [next_too_large_tail h hs]
      have hr : Refusal data bytes [] (bytes.length + weight data) :=
        ⟨trivial, hs, Or.inr ⟨hl.symm, by rw [ht]; rfl⟩⟩
      exact .refused hr rfl
    · rw [next_of_not_mem h (Nat.le_of_not_lt hs)]
      exact .quiet hl ht rfl trivial (Nat.le_of_not_lt hs)
  | line raw bytes h ih =>
    by_cases hc : maxEventSize < weight (Stream.collect data raw)
    · rw [next_too_large h hw hc bytes]
      have hr : Refusal data (raw ++ lineFeed :: bytes) [] (weight (Stream.collect data raw)) :=
        ⟨trivial, hc, Or.inl ⟨raw, _, Stream.lines_line h bytes, rfl⟩⟩
      exact .refused hr rfl
    · have hle := Nat.le_of_not_lt hc
      rcases next_line_yielded h hle bytes with ⟨hy, hn⟩ | ⟨result, hy, hn⟩
      · rw [hn]
        exact (ih hle).cons h hle hy
      · rw [hn]
        have hlines : Stream.lines (raw ++ lineFeed :: bytes) = [] ++ raw :: Stream.lines bytes :=
          Stream.lines_line h bytes
        exact .told hlines (Stream.tail_line h bytes) rfl ⟨hle, trivial⟩ hy

inductive Reachable : Decoder → Prop
  | new : Reachable empty
  | extend {d : Decoder} (chunk : List UInt8) : Reachable d → Reachable (d.extend chunk)
  | next {d : Decoder} : Reachable d → Reachable d.next.2
  | nextPayload {d : Decoder} : Reachable d → Reachable d.nextPayload.2

def Counted (d : Decoder) : Prop :=
  ∃ data bytes, d = holding data bytes ∧ weight data ≤ maxEventSize

theorem counted_empty : Counted empty := ⟨[], [], rfl, Nat.zero_le _⟩

theorem Counted.extend {d : Decoder} (h : Counted d) (chunk : List UInt8) :
    Counted (d.extend chunk) := by
  obtain ⟨data, bytes, rfl, hw⟩ := h
  exact ⟨data, bytes ++ chunk, rfl, hw⟩

theorem Stepped.counted {result : Except EventError (Option String)} {d : Decoder}
    (hw : weight data ≤ maxEventSize) (h : Stepped data bytes (result, d)) : Counted d := by
  cases h with
  | quiet _ _ _ hf => exact ⟨_, _, rfl, weight_foldl_le hw hf⟩
  | told _ _ _ hf => exact ⟨_, _, rfl, weight_foldl_le hw hf⟩
  | refused => exact counted_empty

theorem Counted.next {d : Decoder} (h : Counted d) : Counted d.next.2 := by
  obtain ⟨data, bytes, rfl, hw⟩ := h
  exact (stepped bytes hw).counted hw

theorem nextPayload_snd (d : Decoder) : d.nextPayload.2 = d.next.2 := by
  unfold nextPayload
  rcases d.next with ⟨_ | _ | event, d'⟩
  · rfl
  · rfl
  · dsimp only
    cases Json.readText Payload.reader event <;> rfl

theorem Reachable.counted {d : Decoder} (h : Reachable d) : Counted d := by
  induction h with
  | new => exact counted_empty
  | extend chunk _ ih => exact ih.extend chunk
  | next _ ih => exact ih.next
  | nextPayload _ ih => exact nextPayload_snd _ ▸ ih.next

end Decoder

theorem utf8ByteSize_intercalate {values : List String} (h : values ≠ []) :
    ("\n".intercalate values).utf8ByteSize + 1 = weight values + values.length := by
  have hlf : ("\n" : String).utf8ByteSize = 1 := rfl
  induction values with
  | nil => exact absurd rfl h
  | cons value values ih =>
    cases values with
    | nil => rw [String.intercalate_singleton, weight_singleton, List.length_singleton]
    | cons second rest =>
      have ih := ih (List.cons_ne_nil _ _)
      rw [String.intercalate_cons_cons, String.utf8ByteSize_append, String.utf8ByteSize_append, hlf,
        weight, List.length_cons]
      omega

theorem Line.ofText_ne_blank (cs : List Char) : Line.ofText cs ≠ .blank := by
  unfold Line.ofText
  split
  · simp
  · split <;> simp

theorem Line.ofBytes_eq_blank {bytes : List UInt8} : Line.ofBytes bytes = .blank ↔ bytes = [] := by
  constructor
  · intro h
    unfold Line.ofBytes at h
    split at h
    case isTrue he => exact List.isEmpty_iff.mp he
    case isFalse =>
      split at h
      · cases h
      · exact absurd h (Line.ofText_ne_blank _)
  · rintro rfl
    rfl

theorem yielded_eq_ok {event : String} (h : Stream.yielded data raw = [.ok event]) :
    (Stream.trimmed raw).isEmpty ∧ data ≠ [] ∧ event = "\n".intercalate data := by
  unfold Stream.yielded at h
  cases hl : Line.ofBytes (Stream.trimmed raw) with
  | blank =>
    rw [hl] at h
    by_cases hd : data = []
    · simp [hd] at h
    · refine ⟨List.isEmpty_iff.mpr (Line.ofBytes_eq_blank.mp hl), hd, ?_⟩
      simpa [hd] using h.symm
  | _ => simp [hl] at h

theorem values_of_next {d d' : Decoder} {event : String} (h : d.Reachable)
    (hn : d.next = (.ok (some event), d')) :
    ∃ raws blank values, Stream.lines d.buffer = raws ++ blank :: Stream.lines d'.buffer ∧
      (Stream.trimmed blank).isEmpty ∧ values = raws.foldl Stream.collect d.lines.reverse ∧
      values ≠ [] ∧ event = "\n".intercalate values ∧ weight values ≤ maxEventSize := by
  obtain ⟨data, bytes, rfl, hw⟩ := h.counted
  have hs := Decoder.stepped bytes hw
  rw [hn] at hs
  generalize hr : (Except.ok (some event) : Except EventError (Option String)) = r at hs
  cases hs with
  | quiet => cases hr
  | refused => cases hr
  | @told raws raw rest result hl _ _ hf hy =>
    cases result with
    | error e => cases hr
    | ok event' =>
      obtain rfl : event = event' := by simpa [Except.map] using hr
      obtain ⟨hb, hne, rfl⟩ := yielded_eq_ok hy
      refine ⟨raws, raw, _, hl, hb, by simp [Decoder.holding], hne, rfl, ?_⟩
      exact weight_foldl_le hw (fits_append.mp hf).1

/-- The bytes of an event: as many as its values have together, which is within the bound, and a line
feed between any two of them. The event keeps within the bound exactly if both together do. -/
theorem event_size {d d' : Decoder} {event : String} (h : d.Reachable)
    (hn : d.next = (.ok (some event), d')) :
    ∃ raws blank values, Stream.lines d.buffer = raws ++ blank :: Stream.lines d'.buffer ∧
      (Stream.trimmed blank).isEmpty ∧ values = raws.foldl Stream.collect d.lines.reverse ∧
      values ≠ [] ∧ event = "\n".intercalate values ∧ weight values ≤ maxEventSize ∧
      event.utf8ByteSize + 1 = weight values + values.length ∧
      (event.utf8ByteSize ≤ maxEventSize ↔ weight values + (values.length - 1) ≤ maxEventSize) := by
  obtain ⟨raws, blank, values, hl, hb, hvalues, hne, hjoin, hw⟩ := values_of_next h hn
  have hsize := hjoin ▸ utf8ByteSize_intercalate hne
  refine ⟨raws, blank, values, hl, hb, hvalues, hne, hjoin, hw, hsize, ?_⟩
  have hpos := List.length_pos_of_ne_nil hne
  omega

theorem event_size_joined :
    let d := Decoder.empty.extend (Stream.unlines [dataLine [97], dataLine [98], []])
    d.Reachable ∧ d.next = (.ok (some "a\nb"), .empty) ∧
      ∃ values, "a\nb" = "\n".intercalate values ∧ weight values ≤ maxEventSize ∧
        weight values + (values.length - 1) ≤ maxEventSize := by
  intro d
  have hd : d.Reachable := .extend _ .new
  have hn : d.next = (.ok (some "a\nb"), .empty) := by rfl
  obtain ⟨-, -, values, -, -, -, -, hjoin, hw, -, hmeets⟩ := event_size hd hn
  have hshort : ("a\nb" : String).utf8ByteSize ≤ maxEventSize := by decide
  exact ⟨hd, hn, values, hjoin, hw, hmeets.mp hshort⟩

def dataName : List UInt8 := [100, 97, 116, 97]

theorem next_unvalued (n : ℕ) (hw : weight data ≤ maxEventSize) :
    (Decoder.holding data (Stream.unlines (List.replicate n dataName))).next =
      (.ok none, .holding (data ++ List.replicate n "") []) := by
  induction n generalizing data with
  | zero =>
    have hn : (Decoder.holding data []).next = (.ok none, .holding data []) :=
      Decoder.next_of_not_mem (by simp [Decoder.holding]) (by simpa [Decoder.holding] using hw)
    rwa [List.replicate_zero, List.replicate_zero, List.append_nil]
  | succ n ih =>
    have hl : Line.ofBytes (Stream.trimmed dataName) = .data "" := by decide
    have hw' : weight (data ++ [""]) ≤ maxEventSize := by
      rwa [weight_append, weight_singleton]
    rw [List.replicate_succ, Stream.unlines_cons,
      Decoder.next_line (by decide) (Stream.collect_data hl ▸ hw'), hl]
    dsimp only
    rw [ih hw', List.append_assoc, List.singleton_append, List.replicate_succ]

theorem exists_event_of_size (n : ℕ) :
    let collecting := (Decoder.empty.extend (Stream.unlines (List.replicate (n + 1) dataName))).next
    collecting.1 = .ok none ∧ ∃ event,
      (collecting.2.extend [lineFeed]).next = (.ok (some event), .empty) ∧ event.utf8ByteSize = n := by
  intro collecting
  have hnone : weight [] ≤ maxEventSize := Nat.zero_le _
  have hc : collecting = _ := next_unvalued (n + 1) hnone
  have hne : List.replicate (n + 1) "" ≠ [] := by simp
  have hn : (Decoder.holding (List.replicate (n + 1) "") ([] ++ lineFeed :: [])).next = _ :=
    Decoder.next_line (by simp) (Nat.zero_le _) []
  have hsize := utf8ByteSize_intercalate hne
  rw [weight_replicate, List.length_replicate] at hsize
  rw [hc]
  exact ⟨rfl, _, hn.trans (if_neg hne), by simpa using hsize⟩

/-- An event that is larger than the bound, although none of its lines has a value. -/
theorem unvalued_exceeds :
    let collecting :=
      (Decoder.empty.extend (Stream.unlines (List.replicate (1048577 + 1) dataName))).next
    collecting.1 = .ok none ∧ (collecting.2.extend [lineFeed]).Reachable ∧ ∃ event,
      (collecting.2.extend [lineFeed]).next = (.ok (some event), .empty) ∧
        maxEventSize < event.utf8ByteSize := by
  obtain ⟨hnone, event, hn, hsize⟩ := exists_event_of_size 1048577
  exact ⟨hnone, .extend _ (.next (.extend _ .new)), event, hn, hsize ▸ by decide⟩

end FleetControl.Telemetry
