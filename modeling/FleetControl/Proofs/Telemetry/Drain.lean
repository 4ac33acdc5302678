import FleetControl.Proofs.Telemetry.Lines

namespace FleetControl.Telemetry

variable {data : List String} {raw bytes : List UInt8}

def weight : List String → ℕ
  | [] => 0
  | value :: rest => value.utf8ByteSize + weight rest

theorem weight_append (data more : List String) :
    weight (data ++ more) = weight data + weight more := by
  induction data with
  | nil => simp [weight]
  | cons value data ih => simp only [List.cons_append, weight, ih, Nat.add_assoc]

theorem weight_singleton (value : String) : weight [value] = value.utf8ByteSize := rfl

theorem weight_collect (data : List String) (raw : List UInt8) :
    Stream.collect data raw = [] ∨ Stream.collect data raw = data ∨
      weight (Stream.collect data raw) < weight data + raw.length := by
  cases hl : Line.ofBytes (Stream.trimmed raw) with
  | blank => exact Or.inl (Stream.collect_blank hl)
  | data value =>
    have hv := Line.utf8ByteSize_of_ofBytes hl
    have ht := length_trimmed_le raw
    refine Or.inr (Or.inr ?_)
    rw [Stream.collect_data hl, weight_append, weight_singleton]
    omega
  | passedOver => exact Or.inr (Or.inl (Stream.collect_passedOver hl))
  | malformed => exact Or.inr (Or.inl (Stream.collect_malformed hl))

theorem weight_collect_le (data : List String) (raw : List UInt8) :
    weight (Stream.collect data raw) ≤ weight data + raw.length := by
  rcases weight_collect data raw with h | h | h
  · rw [h]
    exact Nat.zero_le _
  · rw [h]
    exact Nat.le_add_right _ _
  · exact Nat.le_of_lt h

namespace Stream

/-- What a line yields by itself, after the values that its event has so far. -/
def yielded (data : List String) (raw : List UInt8) : List (Except EventError String) :=
  match Line.ofBytes (trimmed raw) with
  | .blank => if data = [] then [] else [.ok ("\n".intercalate data)]
  | .malformed => [.error .notText]
  | .data _ => []
  | .passedOver => []

@[simp] theorem events_nil : events [] = [] := rfl

theorem length_yielded_le (data : List String) (raw : List UInt8) :
    (yielded data raw).length ≤ 1 := by
  unfold yielded
  cases Line.ofBytes (trimmed raw) with
  | blank => by_cases hd : data = [] <;> simp [hd]
  | _ => simp

theorem read_cons_eq (data : List String) (raw : List UInt8) (rest : List (List UInt8)) :
    read data (raw :: rest) = yielded data raw ++ read (collect data raw) rest := by
  rw [read_cons, yielded, collect]
  cases Line.ofBytes (trimmed raw) with
  | blank => by_cases hd : data = [] <;> simp [hd]
  | _ => rfl

end Stream

/-- The values collected stay within the bound on an event at the end of each line. -/
def Fits (data : List String) : List (List UInt8) → Prop
  | [] => True
  | raw :: rest =>
    weight (Stream.collect data raw) ≤ maxEventSize ∧ Fits (Stream.collect data raw) rest

theorem fits_append {raws more : List (List UInt8)} :
    Fits data (raws ++ more) ↔ Fits data raws ∧ Fits (raws.foldl Stream.collect data) more := by
  induction raws generalizing data with
  | nil => simp [Fits]
  | cons raw raws ih => simp [Fits, ih, and_assoc]

theorem weight_foldl_le {raws : List (List UInt8)} (hw : weight data ≤ maxEventSize)
    (h : Fits data raws) : weight (raws.foldl Stream.collect data) ≤ maxEventSize := by
  induction raws generalizing data with
  | nil => exact hw
  | cons raw raws ih => exact ih h.1 h.2

namespace Decoder

def holding (data : List String) (bytes : List UInt8) : Decoder :=
  ⟨bytes, data.reverse, weight data⟩

theorem scan_append (line : List UInt8) (values : List String) (size : ℕ) (h : lineFeed ∉ raw)
    (rest : List UInt8) :
    scan line values size (raw ++ rest) = scan (raw.reverse ++ line) values size rest := by
  induction raw generalizing line with
  | nil => rfl
  | cons b raw ih =>
    rw [List.mem_cons, not_or] at h
    rw [List.cons_append, scan, if_neg (by simpa using Ne.symm h.1), ih _ h.2, List.reverse_cons,
      List.append_assoc, List.singleton_append]

theorem next_of_not_mem {d : Decoder} (h : lineFeed ∉ d.buffer)
    (hw : d.buffer.length + d.size ≤ maxEventSize) : d.next = (.ok none, d) := by
  have hs := scan_append [] d.lines d.size h []
  rw [List.append_nil, List.append_nil] at hs
  rw [next, hs, scan, List.length_reverse, List.reverse_reverse, if_neg (by omega)]

theorem next_line (h : lineFeed ∉ raw) (hw : weight (Stream.collect data raw) ≤ maxEventSize)
    (bytes : List UInt8) :
    (holding data (raw ++ lineFeed :: bytes)).next =
      match Line.ofBytes (Stream.trimmed raw) with
      | .blank =>
        if data = [] then (holding [] bytes).next
        else (.ok (some ("\n".intercalate data)), holding [] bytes)
      | .data value => (holding (data ++ [value]) bytes).next
      | .passedOver => (holding data bytes).next
      | .malformed => (.error .notText, holding data bytes) := by
  rw [next, holding, scan_append _ _ _ h, List.append_nil, scan, if_pos (beq_self_eq_true _),
    lineOf_reverse]
  cases hl : Line.ofBytes (Stream.trimmed raw) with
  | blank =>
    by_cases hd : data = []
    · subst hd
      rfl
    · simp only [List.isEmpty_reverse, List.isEmpty_iff, hd, if_false, List.reverse_reverse]
      rfl
  | data value =>
    rw [Stream.collect_data hl, weight_append, weight_singleton] at hw
    dsimp only
    rw [if_neg (by omega), next, holding, weight_append, weight_singleton, List.reverse_append]
    rfl
  | passedOver => rfl
  | malformed => rfl

theorem next_too_large (h : lineFeed ∉ raw) (hd : weight data ≤ maxEventSize)
    (hw : maxEventSize < weight (Stream.collect data raw)) (bytes : List UInt8) :
    (holding data (raw ++ lineFeed :: bytes)).next =
      (.error (.tooLarge (weight (Stream.collect data raw))), empty) := by
  rw [next, holding, scan_append _ _ _ h, List.append_nil, scan, if_pos (beq_self_eq_true _),
    lineOf_reverse]
  cases hl : Line.ofBytes (Stream.trimmed raw) with
  | blank =>
    rw [Stream.collect_blank hl] at hw
    simp [weight] at hw
  | data value =>
    rw [Stream.collect_data hl, weight_append, weight_singleton] at hw ⊢
    dsimp only
    rw [if_pos hw]
  | passedOver =>
    rw [Stream.collect_passedOver hl] at hw
    omega
  | malformed =>
    rw [Stream.collect_malformed hl] at hw
    omega

theorem next_too_large_tail (h : lineFeed ∉ bytes)
    (hw : maxEventSize < bytes.length + weight data) :
    (holding data bytes).next = (.error (.tooLarge (bytes.length + weight data)), empty) := by
  have hs := scan_append [] data.reverse (weight data) h []
  rw [List.append_nil, List.append_nil] at hs
  rw [next, holding, hs, scan, List.length_reverse, if_pos hw]

theorem drainWith_congr {α : Type} {step : Decoder → Except EventError (Option α) × Decoder}
    {d d' : Decoder} (h : step d = step d') (fuel : ℕ) :
    drainWith step (fuel + 1) d = drainWith step (fuel + 1) d' := by
  rw [drainWith, drainWith, h]

theorem drainWith_line (h : lineFeed ∉ raw) (hw : weight (Stream.collect data raw) ≤ maxEventSize)
    (bytes : List UInt8) (fuel : ℕ) :
    drainWith next (fuel + 1) (holding data (raw ++ lineFeed :: bytes)) =
      ((Stream.yielded data raw ++ (drainWith next (fuel + 1 - (Stream.yielded data raw).length)
          (holding (Stream.collect data raw) bytes)).1),
        (drainWith next (fuel + 1 - (Stream.yielded data raw).length)
          (holding (Stream.collect data raw) bytes)).2) := by
  have hn := next_line h hw bytes
  unfold Stream.yielded
  cases hl : Line.ofBytes (Stream.trimmed raw) with
  | blank =>
    rw [hl] at hn
    rw [Stream.collect_blank hl]
    by_cases hd : data = []
    · rw [drainWith_congr (hn.trans (if_pos hd))]
      simp [hd]
    · rw [drainWith, hn.trans (if_neg hd)]
      simp [hd]
  | data value =>
    rw [hl] at hn
    rw [Stream.collect_data hl, drainWith_congr hn]
    rfl
  | passedOver =>
    rw [hl] at hn
    rw [Stream.collect_passedOver hl, drainWith_congr hn]
    rfl
  | malformed =>
    rw [hl] at hn
    rw [Stream.collect_malformed hl, drainWith, hn]
    rfl

theorem drainWith_refused {d : Decoder} {e : EventError} (h : d.next = (.error e, empty))
    (fuel : ℕ) : drainWith next (fuel + 1) d = ([.error e], empty) := by
  rw [drainWith, h]
  cases fuel <;> rfl

/-- An event is refused among some bytes, at its size by then: at a line after those before it, or at
the tail after all lines. -/
structure Refusal (data : List String) (bytes : List UInt8) (before : List (List UInt8))
    (size : ℕ) : Prop where
  fits : Fits data before
  large : maxEventSize < size
  reached : (∃ raw more, Stream.lines bytes = before ++ raw :: more ∧
      size = weight (Stream.collect (before.foldl Stream.collect data) raw)) ∨
    (before = Stream.lines bytes ∧
      size = (Stream.tail bytes).length + weight (before.foldl Stream.collect data))

theorem not_refusal_of_fits {before : List (List UInt8)} {size : ℕ}
    (hf : Fits data (Stream.lines bytes))
    (ht : (Stream.tail bytes).length + weight ((Stream.lines bytes).foldl Stream.collect data) ≤
      maxEventSize) : ¬Refusal data bytes before size := by
  rintro ⟨-, hs, ⟨raw, more, hl, rfl⟩ | ⟨rfl, rfl⟩⟩
  · rw [hl] at hf
    have hfits := (fits_append.mp hf).2.1
    omega
  · omega

/-- What draining yields and leaves. -/
inductive Drained (data : List String) (bytes : List UInt8) :
    List (Except EventError String) × Decoder → Prop
  | kept {raws : List (List UInt8)} {rest : List UInt8} : Stream.lines bytes = raws →
      Stream.tail bytes = rest → Fits data raws →
      rest.length + weight (raws.foldl Stream.collect data) ≤ maxEventSize →
        Drained data bytes (Stream.read data raws, holding (raws.foldl Stream.collect data) rest)
  | refused {raws : List (List UInt8)} {size : ℕ} : Refusal data bytes raws size →
      Drained data bytes (Stream.read data raws ++ [.error (.tooLarge size)], empty)

theorem refusal_line {before : List (List UInt8)} {size : ℕ} (h : lineFeed ∉ raw)
    (hw : weight (Stream.collect data raw) ≤ maxEventSize) :
    Refusal data (raw ++ lineFeed :: bytes) before size ↔
      ∃ before', before = raw :: before' ∧ Refusal (Stream.collect data raw) bytes before' size := by
  constructor
  · rintro ⟨hf, hs, hr⟩
    rw [Stream.lines_line h, Stream.tail_line h] at hr
    rcases hr with ⟨raw', more, hl, rfl⟩ | ⟨rfl, rfl⟩
    · cases before with
      | nil =>
        obtain ⟨rfl, -⟩ := List.cons.inj hl
        exact absurd hs (Nat.not_lt.mpr hw)
      | cons first before =>
        obtain rfl : raw = first := (List.cons.inj hl).1
        exact ⟨before, rfl, hf.2, hs, Or.inl ⟨raw', more, (List.cons.inj hl).2, rfl⟩⟩
    · exact ⟨_, rfl, hf.2, hs, Or.inr ⟨rfl, rfl⟩⟩
  · rintro ⟨before, rfl, hf, hs, hr⟩
    refine ⟨⟨hw, hf⟩, hs, ?_⟩
    rw [Stream.lines_line h, Stream.tail_line h]
    rcases hr with ⟨raw', more, hl, hsize⟩ | ⟨hl, hsize⟩
    · exact Or.inl ⟨raw', more, congrArg _ hl, hsize⟩
    · exact Or.inr ⟨congrArg _ hl, hsize⟩

theorem refusal_append {more : List UInt8} {before : List (List UInt8)} {size : ℕ}
    (hf : Fits data (Stream.lines bytes)) :
    Refusal data (bytes ++ more) before size ↔
      ∃ before', before = Stream.lines bytes ++ before' ∧
        Refusal ((Stream.lines bytes).foldl Stream.collect data) (Stream.tail bytes ++ more)
          before' size := by
  induction bytes using lines_induction generalizing data before with
  | tail bytes h => simp [Stream.lines_of_not_mem h, Stream.tail_of_not_mem h]
  | line raw bytes h ih =>
    rw [Stream.lines_line h] at hf
    rw [List.append_assoc, List.cons_append, refusal_line h hf.1, Stream.lines_line h,
      Stream.tail_line h]
    simp only [ih hf.2, List.foldl_cons, List.cons_append]
    constructor
    · rintro ⟨_, rfl, before', rfl, hr⟩
      exact ⟨before', rfl, hr⟩
    · rintro ⟨before', rfl, hr⟩
      exact ⟨_, rfl, before', rfl, hr⟩

theorem refusal_first {before : List (List UInt8)} {size : ℕ} (h : lineFeed ∉ raw)
    (hw : maxEventSize < weight (Stream.collect data raw))
    (hr : Refusal data (raw ++ lineFeed :: bytes) before size) :
    before = [] ∧ size = weight (Stream.collect data raw) := by
  obtain ⟨hf, -, hreached⟩ := hr
  rw [Stream.lines_line h] at hreached
  cases before with
  | nil =>
    rcases hreached with ⟨raw', more, hl, hs⟩ | ⟨hl, -⟩
    · exact ⟨rfl, (List.cons.inj hl).1 ▸ hs⟩
    · cases hl
  | cons first before =>
    have hfirst : first = raw := by
      rcases hreached with ⟨raw', more, hl, -⟩ | ⟨hl, -⟩
      · exact (List.cons.inj hl).1.symm
      · exact (List.cons.inj hl).1
    exact absurd hw (Nat.not_lt.mpr (hfirst ▸ hf.1))

theorem Refusal.unique {before before' : List (List UInt8)} {size size' : ℕ}
    (h : Refusal data bytes before size) (h' : Refusal data bytes before' size') :
    before = before' ∧ size = size' := by
  induction bytes using lines_induction generalizing data before before' with
  | tail bytes hb =>
    have hl := Stream.lines_of_not_mem hb
    obtain ⟨-, -, hr⟩ := h
    obtain ⟨-, -, hr'⟩ := h'
    simp only [hl, List.nil_eq, List.append_eq_nil_iff, reduceCtorEq, and_false, false_and,
      exists_false, false_or] at hr hr'
    obtain ⟨rfl, rfl⟩ := hr
    obtain ⟨rfl, rfl⟩ := hr'
    exact ⟨rfl, rfl⟩
  | line raw bytes hraw ih =>
    by_cases hw : weight (Stream.collect data raw) ≤ maxEventSize
    · obtain ⟨rest, rfl, hr⟩ := (refusal_line hraw hw).mp h
      obtain ⟨rest', rfl, hr'⟩ := (refusal_line hraw hw).mp h'
      obtain ⟨rfl, rfl⟩ := ih hr hr'
      exact ⟨rfl, rfl⟩
    · obtain ⟨rfl, rfl⟩ := refusal_first hraw (Nat.lt_of_not_le hw) h
      obtain ⟨rfl, rfl⟩ := refusal_first hraw (Nat.lt_of_not_le hw) h'
      exact ⟨rfl, rfl⟩

theorem Drained.cons {results : List (Except EventError String)} {d : Decoder} (h : lineFeed ∉ raw)
    (hw : weight (Stream.collect data raw) ≤ maxEventSize)
    (hd : Drained (Stream.collect data raw) bytes (results, d)) :
    Drained data (raw ++ lineFeed :: bytes) (Stream.yielded data raw ++ results, d) := by
  cases hd with
  | kept hl ht hf hs =>
    rw [← Stream.read_cons_eq]
    exact .kept ((Stream.lines_line h bytes).trans (congrArg _ hl))
      ((Stream.tail_line h bytes).trans ht) ⟨hw, hf⟩ hs
  | refused hr =>
    rw [← List.append_assoc, ← Stream.read_cons_eq]
    exact .refused ((refusal_line h hw).mpr ⟨_, rfl, hr⟩)

theorem drained_drainWith {fuel : ℕ} (hw : weight data ≤ maxEventSize)
    (hf : (Stream.lines bytes).length + 1 < fuel) :
    Drained data bytes (drainWith next fuel (holding data bytes)) := by
  obtain ⟨fuel, rfl⟩ := Nat.exists_eq_add_one.mpr (Nat.zero_lt_of_lt hf)
  induction bytes using lines_induction generalizing data fuel with
  | tail bytes h =>
    have hl := Stream.lines_of_not_mem h
    have ht := Stream.tail_of_not_mem h
    by_cases hs : maxEventSize < bytes.length + weight data
    · have hr : Refusal data bytes [] (bytes.length + weight data) :=
        ⟨trivial, hs, Or.inr ⟨hl.symm, by rw [ht]; rfl⟩⟩
      rw [drainWith_refused (next_too_large_tail h hs)]
      exact .refused hr
    · rw [drainWith, next_of_not_mem h (by simpa [holding] using hs)]
      exact .kept hl ht trivial (Nat.le_of_not_lt hs)
  | line raw bytes h ih =>
    rw [Stream.lines_line h, List.length_cons] at hf
    by_cases hc : maxEventSize < weight (Stream.collect data raw)
    · rw [drainWith_refused (next_too_large h hw hc bytes)]
      have hr : Refusal data (raw ++ lineFeed :: bytes) [] (weight (Stream.collect data raw)) :=
        ⟨trivial, hc, Or.inl ⟨raw, _, Stream.lines_line h bytes, rfl⟩⟩
      exact .refused hr
    · have hle := Nat.le_of_not_lt hc
      have hy := Stream.length_yielded_le data raw
      obtain ⟨left, hleft⟩ := Nat.exists_eq_add_one.mpr
        (by omega : 0 < fuel + 1 - (Stream.yielded data raw).length)
      rw [drainWith_line h hle]
      refine Drained.cons h hle ?_
      rw [hleft]
      exact ih hle left (by omega)

theorem drained (bytes : List UInt8) (hw : weight data ≤ maxEventSize) :
    Drained data bytes (holding data bytes).drain :=
  drained_drainWith hw (by
    rw [Stream.length_lines]
    exact Nat.lt_succ_self _)

def past (bytes : List UInt8) : Decoder :=
  holding ((Stream.lines bytes).foldl Stream.collect []) (Stream.tail bytes)

@[simp] theorem past_nil : past [] = empty := rfl

def Unrefused (bytes : List UInt8) : List (List UInt8) → Prop
  | [] => True
  | chunk :: rest =>
    (∀ before size, ¬Refusal [] (bytes ++ chunk) before size) ∧ Unrefused (bytes ++ chunk) rest

theorem drained_past (hf : Fits [] (Stream.lines bytes)) (chunk : List UInt8) :
    Drained ((Stream.lines bytes).foldl Stream.collect []) (Stream.tail bytes ++ chunk)
      ((past bytes).extend chunk).drain :=
  drained _ (weight_foldl_le (Nat.zero_le _ : weight [] ≤ maxEventSize) hf)

theorem decodeChunks_unrefused {chunks : List (List UInt8)} (hf : Fits [] (Stream.lines bytes))
    (h : Unrefused bytes chunks) (more : List (List UInt8)) :
    Fits [] (Stream.lines (bytes ++ chunks.flatten)) ∧
      Stream.events bytes ++ (decodeChunks drain (past bytes) (chunks ++ more)).flatten =
        Stream.events (bytes ++ chunks.flatten) ++
          (decodeChunks drain (past (bytes ++ chunks.flatten)) more).flatten := by
  induction chunks generalizing bytes with
  | nil => simpa using hf
  | cons chunk chunks ih =>
    have hd := drained_past hf chunk
    rw [List.cons_append, decodeChunks, List.flatten_cons, ← List.append_assoc bytes]
    generalize ((past bytes).extend chunk).drain = result at hd
    cases hd with
    | kept hl ht hfits _ =>
      subst hl ht
      have hlines := Stream.lines_append bytes chunk
      have hpast : past (bytes ++ chunk) = holding
          ((Stream.lines (Stream.tail bytes ++ chunk)).foldl Stream.collect
            ((Stream.lines bytes).foldl Stream.collect []))
          (Stream.tail (Stream.tail bytes ++ chunk)) := by
        rw [past, hlines, List.foldl_append, Stream.tail_append]
      have hevents : Stream.events (bytes ++ chunk) = Stream.events bytes ++
          Stream.read ((Stream.lines bytes).foldl Stream.collect [])
            (Stream.lines (Stream.tail bytes ++ chunk)) := by
        rw [Stream.events, hlines, Stream.read_append, Stream.events]
      have hnext : Fits [] (Stream.lines (bytes ++ chunk)) := hlines ▸ fits_append.mpr ⟨hf, hfits⟩
      rw [List.flatten_cons, ← List.append_assoc (Stream.events bytes), ← hevents, ← hpast]
      exact ih hnext h.2
    | refused hr => exact absurd ((refusal_append hf).mpr ⟨_, rfl, hr⟩) (h.1 _ _)

theorem fits_of_unrefused {chunks : List (List UInt8)} (h : Unrefused [] chunks) :
    Fits [] (Stream.lines chunks.flatten) := by
  have hf : Fits [] (Stream.lines []) := trivial
  exact (decodeChunks_unrefused hf h []).1

theorem decodeChunks_events {chunks : List (List UInt8)} (h : Unrefused [] chunks) :
    (decodeChunks drain empty chunks).flatten = Stream.events chunks.flatten := by
  have hf : Fits [] (Stream.lines []) := trivial
  have hc := (decodeChunks_unrefused hf h []).2
  simpa [decodeChunks] using hc

/-- A chunk with a refusal yields what comes before it and the error, and what follows in the chunk is
lost: the chunks that come go to an empty decoder. -/
theorem decodeChunks_refused {chunk : List UInt8} {before : List (List UInt8)} {size : ℕ}
    (hf : Fits [] (Stream.lines bytes)) (hr : Refusal [] (bytes ++ chunk) before size)
    (more : List (List UInt8)) :
    Stream.events bytes ++ (decodeChunks drain (past bytes) (chunk :: more)).flatten =
      Stream.read [] before ++
        .error (.tooLarge size) :: (decodeChunks drain empty more).flatten := by
  obtain ⟨raws, rfl, htail⟩ := (refusal_append hf).mp hr
  have hd := drained_past hf chunk
  rw [decodeChunks]
  generalize ((past bytes).extend chunk).drain = result at hd
  cases hd with
  | kept hl ht hfits hs =>
    subst hl ht
    exact absurd htail (not_refusal_of_fits hfits hs)
  | refused hr' =>
    obtain ⟨rfl, rfl⟩ := htail.unique hr'
    simp [Stream.events, Stream.read_append]

theorem decodeChunks_first_refusal {chunks : List (List UInt8)} {chunk : List UInt8}
    {before : List (List UInt8)} {size : ℕ} (h : Unrefused [] chunks)
    (hr : Refusal [] (chunks ++ [chunk]).flatten before size) (more : List (List UInt8)) :
    (decodeChunks drain empty (chunks ++ chunk :: more)).flatten =
      Stream.read [] before ++
        .error (.tooLarge size) :: (decodeChunks drain empty more).flatten := by
  have hf : Fits [] (Stream.lines []) := trivial
  obtain ⟨hfits, hc⟩ := decodeChunks_unrefused hf h (chunk :: more)
  rw [List.nil_append] at hfits hc
  rw [List.flatten_append, List.flatten_singleton] at hr
  rw [← decodeChunks_refused hfits hr more, ← hc]
  rfl

end Decoder

end FleetControl.Telemetry
