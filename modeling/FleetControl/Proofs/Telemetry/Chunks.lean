import FleetControl.Proofs.Telemetry.Drain

namespace FleetControl.Telemetry

variable {data : List String} {raw bytes : List UInt8}

/-- Each line, as it comes, has room beside the values that are collected by then. -/
def Room (data : List String) : List (List UInt8) → Prop
  | [] => True
  | raw :: rest => weight data + raw.length ≤ maxEventSize ∧ Room (Stream.collect data raw) rest

theorem room_append {raws more : List (List UInt8)} :
    Room data (raws ++ more) ↔ Room data raws ∧ Room (raws.foldl Stream.collect data) more := by
  induction raws generalizing data with
  | nil => simp [Room]
  | cons raw raws ih => simp [Room, ih, and_assoc]

theorem fits_of_room {raws : List (List UInt8)} (h : Room data raws) : Fits data raws := by
  induction raws generalizing data with
  | nil => trivial
  | cons raw raws ih => exact ⟨Nat.le_trans (weight_collect_le data raw) h.1, ih h.2⟩

theorem room_prefix {more : List UInt8} (hb : lineFeed ∉ bytes)
    (h : Room data ((bytes ++ more).splitOn lineFeed)) : Room data (bytes.splitOn lineFeed) := by
  rw [splitOn_of_not_mem hb]
  refine ⟨?_, trivial⟩
  cases more using lines_induction with
  | tail more hm =>
    rw [splitOn_of_not_mem (by simp [hb, hm])] at h
    have hl := h.1
    rw [List.length_append] at hl
    omega
  | line raw more hr =>
    rw [← List.append_assoc, splitOn_line (by simp [hb, hr])] at h
    have hl := h.1
    rw [List.length_append] at hl
    omega

theorem room_of_append {more : List UInt8} (h : Room data ((bytes ++ more).splitOn lineFeed)) :
    Room data (bytes.splitOn lineFeed) := by
  rw [Stream.splitOn_append] at h
  obtain ⟨hlines, hmore⟩ := room_append.mp h
  have htail := room_prefix (Stream.lineFeed_not_mem_tail bytes) hmore
  rw [splitOn_of_not_mem (Stream.lineFeed_not_mem_tail bytes)] at htail
  rw [Stream.splitOn_eq]
  exact room_append.mpr ⟨hlines, htail⟩

namespace Decoder

theorem not_refusal_of_room {raws : List (List UInt8)} {size : ℕ}
    (h : Room data (bytes.splitOn lineFeed)) : ¬Refusal data bytes raws size := by
  rw [Stream.splitOn_eq] at h
  obtain ⟨hlines, htail, -⟩ := room_append.mp h
  exact not_refusal_of_fits (fits_of_room hlines) (Nat.add_comm _ _ ▸ htail)

theorem unrefused_of_room {chunks : List (List UInt8)}
    (h : Room [] ((bytes ++ chunks.flatten).splitOn lineFeed)) : Unrefused bytes chunks := by
  induction chunks generalizing bytes with
  | nil => trivial
  | cons chunk chunks ih =>
    rw [List.flatten_cons, ← List.append_assoc] at h
    exact ⟨fun _ _ ↦ not_refusal_of_room (room_of_append h), ih h⟩

/-- Either there is nothing to come before more bytes, or a result was paid for: with some of the line
ends, or with all that the decoder held. -/
def Paid (ends : ℕ) (r : Except EventError (Option String)) (d : Decoder) : Prop :=
  (r = .ok none ∧ d.next = (.ok none, d)) ∨
    (r ≠ .ok none ∧ (d = empty ∨ d.buffer.count lineFeed < ends))

theorem Paid.mono {ends more : ℕ} {r : Except EventError (Option String)} {d : Decoder}
    (h : Paid ends r d) (hm : ends ≤ more) : Paid more r d :=
  h.imp_right (And.imp_right (Or.imp_right (Nat.lt_of_lt_of_le · hm)))

theorem scan_paid (line : List UInt8) (values : List String) (size : ℕ) (bytes : List UInt8)
    (h : lineFeed ∉ line) {r : Except EventError (Option String)} {d : Decoder}
    (hs : scan line values size bytes = (r, d)) : Paid (bytes.count lineFeed) r d := by
  induction bytes generalizing line values size with
  | nil =>
    simp only [scan] at hs
    split at hs
    case isTrue =>
      cases hs
      exact Or.inr ⟨by simp, Or.inl rfl⟩
    case isFalse hw =>
      cases hs
      exact Or.inl ⟨rfl, next_of_not_mem (by simpa using h) (by simpa using hw)⟩
  | cons b bytes ih =>
    have hm : bytes.count lineFeed ≤ (b :: bytes).count lineFeed := List.count_le_count_cons
    rw [scan] at hs
    by_cases hb : b = lineFeed
    · subst hb
      rw [if_pos (beq_self_eq_true _)] at hs
      cases hl : Line.ofBytes (lineOf line) with
      | blank =>
        simp only [hl] at hs
        split at hs
        · exact (ih _ _ _ (by simp) hs).mono hm
        · cases hs
          exact Or.inr ⟨by simp, Or.inr (by simp)⟩
      | data value =>
        simp only [hl] at hs
        split at hs
        · cases hs
          exact Or.inr ⟨by simp, Or.inl rfl⟩
        · exact (ih _ _ _ (by simp) hs).mono hm
      | passedOver =>
        simp only [hl] at hs
        exact (ih _ _ _ (by simp) hs).mono hm
      | malformed =>
        simp only [hl] at hs
        cases hs
        exact Or.inr ⟨by simp, Or.inr (by simp)⟩
    · rw [if_neg (by simpa using hb)] at hs
      exact (ih _ _ _ (by simp [h, Ne.symm hb]) hs).mono hm

theorem drainWith_complete {fuel : ℕ} {d : Decoder} (hf : d.buffer.count lineFeed + 1 < fuel) :
    (drainWith next fuel d).2.next = (.ok none, (drainWith next fuel d).2) := by
  induction fuel generalizing d with
  | zero => omega
  | succ fuel ih =>
    rcases hn : d.next with ⟨r, d'⟩
    have hrest (hc : d' = empty ∨ d'.buffer.count lineFeed < d.buffer.count lineFeed) :
        (drainWith next fuel d').2.next = (.ok none, (drainWith next fuel d').2) := by
      rcases hc with rfl | hc
      · cases fuel with
        | zero => omega
        | succ fuel => rfl
      · exact ih (by omega)
    rcases scan_paid [] d.lines d.size d.buffer (by simp) hn with ⟨rfl, hd⟩ | ⟨hr, hc⟩
    · simp only [drainWith, hn]
      exact hd
    · rcases r with e | _ | data
      · simpa only [drainWith, hn] using hrest hc
      · exact absurd rfl hr
      · simpa only [drainWith, hn] using hrest hc

theorem drainWith_nextPayload (fuel : ℕ) (d : Decoder) :
    drainWith nextPayload fuel d =
      ((drainWith next fuel d).1.map Stream.readPayload, (drainWith next fuel d).2) := by
  induction fuel generalizing d with
  | zero => rfl
  | succ fuel ih =>
    rcases hn : d.next with ⟨e | _ | data, d'⟩
    · simp only [drainWith, nextPayload, hn, ih]
      rfl
    · simp only [drainWith, nextPayload, hn]
      rfl
    · cases hp : Json.readText Payload.reader data with
      | ok p => simp [drainWith, nextPayload, hn, ih, hp, Stream.readPayload, Except.mapError]
      | error e => simp [drainWith, nextPayload, hn, ih, hp, Stream.readPayload, Except.mapError]

theorem drainPayloads_eq (d : Decoder) :
    d.drainPayloads = (d.drain.1.map Stream.readPayload, d.drain.2) :=
  drainWith_nextPayload _ d

theorem decodeChunks_drainPayloads (d : Decoder) (chunks : List (List UInt8)) :
    decodeChunks drainPayloads d chunks =
      (decodeChunks drain d chunks).map (List.map Stream.readPayload) := by
  induction chunks generalizing d with
  | nil => rfl
  | cons chunk chunks ih => simp [decodeChunks, drainPayloads_eq, ih]

end Decoder

theorem blockSize_append (block more : List (List UInt8)) :
    Stream.blockSize (block ++ more) = Stream.blockSize block + Stream.blockSize more := by
  induction block with
  | nil => simp [Stream.blockSize]
  | cons raw block ih => simp only [List.cons_append, Stream.blockSize, ih, Nat.add_assoc]

theorem length_of_blank (h : (Stream.trimmed raw).isEmpty) : raw.length ≤ 1 := by
  unfold Stream.trimmed at h
  split at h
  · simp only [List.isEmpty_iff_length_eq_zero, List.length_dropLast] at h
    omega
  · rw [List.isEmpty_iff.mp h]
    exact Nat.zero_le _

theorem modifyHead_nil_append (blocks : List (List (List UInt8))) :
    blocks.modifyHead ([] ++ ·) = blocks := by
  cases blocks <;> rfl

theorem collect_of_blank (h : (Stream.trimmed raw).isEmpty) : Stream.collect data raw = [] :=
  Stream.collect_blank (by rw [List.isEmpty_iff.mp h]; rfl)

theorem room_of_blocks {raws before : List (List UInt8)}
    (hd : data = [] ∨ weight data < Stream.blockSize before)
    (h : ∀ block ∈
      (raws.splitOnP (fun raw ↦ (Stream.trimmed raw).isEmpty)).modifyHead (before ++ ·),
      Stream.blockSize block ≤ maxEventSize) : Room data raws := by
  induction raws generalizing data before with
  | nil => trivial
  | cons raw raws ih =>
    rw [List.splitOnP_cons_eq_if_modifyHead] at h
    by_cases hb : (Stream.trimmed raw).isEmpty
    · rw [if_pos hb, List.modifyHead_cons, List.append_nil] at h
      have hs := h before (by simp)
      have hl := length_of_blank hb
      -- A blank line may still hold a carriage return: the name of a field makes up for it.
      refine ⟨?_, ?_⟩
      · rcases hd with rfl | hd
        · exact Nat.le_trans (Nat.add_le_add_left hl _) (by decide)
        · omega
      · rw [collect_of_blank hb]
        refine ih (Or.inl rfl : [] = [] ∨ weight [] < Stream.blockSize []) (fun block hm ↦ ?_)
        rw [modifyHead_nil_append] at hm
        exact h block (List.mem_cons_of_mem _ hm)
    · rw [if_neg hb, List.modifyHead_modifyHead] at h
      obtain ⟨first, others, hs⟩ := List.exists_cons_of_ne_nil
        (List.splitOnP_ne_nil (fun raw ↦ (Stream.trimmed raw).isEmpty) raws)
      have hf := h (before ++ raw :: first) (by simp [hs])
      rw [blockSize_append, Stream.blockSize] at hf
      have hw : Stream.blockSize (before ++ [raw]) = Stream.blockSize before + raw.length :=
        blockSize_append before [raw]
      have hle : weight data ≤ Stream.blockSize before := by
        rcases hd with rfl | hd
        · exact Nat.zero_le _
        · exact Nat.le_of_lt hd
      have hd' : Stream.collect data raw = [] ∨
          weight (Stream.collect data raw) < Stream.blockSize (before ++ [raw]) := by
        rw [hw]
        rcases weight_collect data raw with hc | hc | hc
        · exact Or.inl hc
        · rw [hc]
          exact hd.imp_right (Nat.lt_add_right _ ·)
        · exact Or.inr (by omega)
      refine ⟨by omega, ih hd' fun block hm ↦ h block ?_⟩
      simpa [Function.comp_def] using hm

theorem room_of_small (h : ∀ block ∈ Stream.blocks bytes, Stream.blockSize block ≤ maxEventSize) :
    Room [] (bytes.splitOn lineFeed) := by
  refine room_of_blocks (Or.inl rfl : [] = [] ∨ weight [] < Stream.blockSize []) ?_
  rwa [modifyHead_nil_append]

/-- The results do not depend on how a stream is cut into chunks: they are those of the whole stream,
read from left to right. Draining after a chunk leaves nothing to come before the next. -/
theorem chunks_immaterial (chunks : List (List UInt8))
    (h : ∀ block ∈ Stream.blocks chunks.flatten, Stream.blockSize block ≤ maxEventSize) :
    (Decoder.decodeChunks Decoder.drain .empty chunks).flatten = Stream.events chunks.flatten ∧
    (Decoder.decodeChunks Decoder.drainPayloads .empty chunks).flatten =
      (Stream.events chunks.flatten).map Stream.readPayload ∧
    ∀ d : Decoder, d.drain.2.next = (.ok none, d.drain.2) ∧
      d.drainPayloads.2.nextPayload = (.ok none, d.drainPayloads.2) := by
  have hr := room_of_small h
  have he : (Decoder.decodeChunks Decoder.drain .empty chunks).flatten =
      Stream.events chunks.flatten :=
    Decoder.decodeChunks_events (Decoder.unrefused_of_room hr)
  refine ⟨he, ?_, ?_⟩
  · rw [Decoder.decodeChunks_drainPayloads, ← List.map_flatten]
    exact congrArg _ he
  · intro d
    have hc : d.drain.2.next = (.ok none, d.drain.2) :=
      Decoder.drainWith_complete (Nat.lt_succ_self _)
    refine ⟨hc, ?_⟩
    rw [Decoder.drainPayloads_eq, Decoder.nextPayload, hc]

/-- An event cut inside a character and between a carriage return and its line feed. -/
def cutEvent : List (List UInt8) :=
  [[100, 97, 116, 97, 58, 32, 195], [169, 13], [10], [100, 97], [116, 97, 13, 10, 13], [10]]

theorem chunks_immaterial_cut :
    (∀ block ∈ Stream.blocks cutEvent.flatten, Stream.blockSize block ≤ maxEventSize) ∧
    (Decoder.decodeChunks Decoder.drain .empty cutEvent).flatten = [.ok "é\n"] := by
  have hb : ∀ block ∈ Stream.blocks cutEvent.flatten, Stream.blockSize block ≤ maxEventSize := by
    decide
  refine ⟨hb, (chunks_immaterial cutEvent hb).1.trans ?_⟩
  decide

end FleetControl.Telemetry
