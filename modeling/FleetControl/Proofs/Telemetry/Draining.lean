import FleetControl.Proofs.Telemetry.Steps
import FleetControl.Telemetry.Loop

namespace FleetControl.Telemetry

variable {data : List String} {raw bytes rest : List UInt8} {d d' : Decoder}

def Turn.outcome : Turn → Except EventError (Option String) × Decoder
  | .again d => d.next
  | .done result d => (result, d)

theorem Stream.exists_line {n : ℕ} (h : bytes.findIdx? (· == lineFeed) = some n) :
    lineFeed ∉ bytes.take n ∧ bytes = bytes.take n ++ lineFeed :: bytes.drop (n + 1) := by
  obtain ⟨hn, hfeed, hbefore⟩ := List.findIdx?_eq_some_iff_getElem.mp h
  constructor
  · rw [List.mem_take_iff_getElem]
    rintro ⟨i, hi, heq⟩
    exact hbefore i (by omega) (by simp [heq])
  · have hget : bytes[n] = lineFeed := by simpa using hfeed
    rw [← hget, List.getElem_cons_drop, List.take_append_drop]

theorem weight_reverse (data : List String) : weight data.reverse = weight data := by
  induction data with
  | nil => rfl
  | cons value data ih =>
    rw [List.reverse_cons, weight_append, ih, weight_singleton, weight, Nat.add_comm]

namespace Decoder

theorem next_onLine (h : lineFeed ∉ raw) (hd : d.buffer = raw ++ lineFeed :: rest) :
    d.next = (d.onLine raw rest).outcome := by
  rw [next, hd, scan_append _ _ _ h, List.append_nil, scan, if_pos (beq_self_eq_true _),
    lineOf_reverse, onLine]
  cases Line.ofBytes (Stream.trimmed raw) with
  | blank =>
    cases hl : d.lines.isEmpty with
    | true => simp [Turn.outcome, next]
    | false => simp [Turn.outcome]
  | data value =>
    dsimp only
    by_cases hs : maxEventSize < d.size + value.utf8ByteSize
    · simp only [if_pos hs, Turn.outcome]
    · simp only [if_neg hs, Turn.outcome, next]
  | passedOver => rfl
  | malformed => rfl

theorem next_onTail (h : lineFeed ∉ d.buffer) : d.next = d.onTail.outcome := by
  have hs := scan_append [] d.lines d.size h []
  rw [List.append_nil, List.append_nil] at hs
  rw [next, hs, scan, List.length_reverse, List.reverse_reverse, onTail]
  by_cases hw : maxEventSize < d.buffer.length + d.size
  · simp only [if_pos hw, Turn.outcome]
  · simp only [if_neg hw, Turn.outcome]

theorem next_eq_outcome (d : Decoder) : d.next = d.turn.outcome := by
  unfold turn
  cases hn : d.buffer.findIdx? (· == lineFeed) with
  | none =>
    have hnone := List.findIdx?_eq_none_iff.mp hn
    exact next_onTail fun h ↦ by simpa using hnone lineFeed h
  | some n =>
    obtain ⟨hline, hbuffer⟩ := Stream.exists_line hn
    exact next_onLine hline hbuffer

theorem buffer_of_onLine_again (h : d.onLine raw rest = .again d') : d'.buffer = rest := by
  unfold onLine at h
  cases hl : Line.ofBytes (Stream.trimmed raw) with
  | blank =>
    simp only [hl] at h
    split at h
    · cases h; rfl
    · cases h
  | data value =>
    simp only [hl] at h
    split at h
    · cases h
    · cases h; rfl
  | passedOver => simp only [hl] at h; cases h; rfl
  | malformed => simp only [hl] at h; cases h

theorem count_of_again (h : d.turn = .again d') :
    d'.buffer.count lineFeed < d.buffer.count lineFeed := by
  unfold turn at h
  cases hn : d.buffer.findIdx? (· == lineFeed) with
  | none =>
    simp only [hn, onTail] at h
    split at h <;> cases h
  | some n =>
    simp only [hn] at h
    obtain ⟨-, hbuffer⟩ := Stream.exists_line hn
    rw [buffer_of_onLine_again h]
    have hcount := congrArg (List.count lineFeed) hbuffer
    rw [List.count_append, List.count_cons_self] at hcount
    omega

theorem exists_loops (d : Decoder) : ∃ n ≤ d.buffer.count lineFeed + 1, d.Loops n d.next := by
  induction hc : d.buffer.count lineFeed using Nat.strongRecOn generalizing d with
  | ind c ih =>
    rw [next_eq_outcome]
    cases ht : d.turn with
    | done result d' => exact ⟨1, by omega, .done ht⟩
    | again d' =>
      have hlt := hc ▸ count_of_again ht
      obtain ⟨n, hn, hloops⟩ := ih _ hlt d' rfl
      exact ⟨n + 1, by omega, .again ht hloops⟩

/-- The results that the bytes of a buffer can give: one for each line end, and one for what is behind
the last. -/
def due (d : Decoder) : ℕ := d.buffer.count lineFeed + min d.buffer.length 1

theorem due_le (d : Decoder) : d.due ≤ d.buffer.count lineFeed + 1 := by
  unfold due
  omega

theorem due_lt (h : d'.buffer.count lineFeed < d.buffer.count lineFeed) : d'.due < d.due := by
  have hlength : d.buffer.count lineFeed ≤ d.buffer.length := List.count_le_length
  unfold due
  omega

structure Settled (d : Decoder) : Prop where
  no_line : lineFeed ∉ d.buffer
  held : d.buffer.length + d.size ≤ maxEventSize

/-- A call yields nothing and leaves nothing to be yielded, or it yields a result and less is due. -/
inductive Spends {α : Type} (d : Decoder) : Except EventError (Option α) × Decoder → Prop
  | nothing {d' : Decoder} : d'.Counted → d'.Settled → Spends d (.ok none, d')
  | result {r : Except EventError α} {d' : Decoder} : d'.Counted → d'.due < d.due →
      Spends d (r.map some, d')

theorem Stepped.spends {outcome : Except EventError (Option String) × Decoder}
    (hw : weight data ≤ maxEventSize) (h : Stepped data bytes outcome) :
    Spends (holding data bytes) outcome := by
  cases h with
  | quiet _ ht _ hf hle =>
    exact .nothing ⟨_, _, rfl, weight_foldl_le hw hf⟩ ⟨ht ▸ Stream.lineFeed_not_mem_tail bytes, hle⟩
  | @told raws raw rest result hl _ _ hf _ =>
    refine .result ⟨_, _, rfl, weight_foldl_le hw hf⟩ (due_lt ?_)
    have hlength := congrArg List.length hl
    rw [List.length_append, List.length_cons, Stream.length_lines, Stream.length_lines] at hlength
    simp only [holding]
    omega
  | @refused raws size hr =>
    -- With nothing in the buffer there is nothing to refuse.
    have hne : bytes ≠ [] := by
      rintro rfl
      have hfits : Fits data (Stream.lines []) := trivial
      exact not_refusal_of_fits hfits (by simpa [Stream.lines, Stream.tail] using hw) hr
    have hpos := List.length_pos_of_ne_nil hne
    have hdue : empty.due < (holding data bytes).due := by
      simp only [due, empty, holding, List.count_nil, List.length_nil]
      omega
    exact .result (r := .error (.tooLarge size)) counted_empty hdue

theorem Counted.spends_next (h : d.Counted) : d.Spends d.next := by
  obtain ⟨data, bytes, rfl, hw⟩ := h
  exact (stepped bytes hw).spends hw

theorem nextPayload_of_nothing (h : d.next = (.ok none, d')) : d.nextPayload = (.ok none, d') := by
  rw [nextPayload, h]

theorem nextPayload_of_result {r : Except EventError String} (h : d.next = (r.map some, d')) :
    d.nextPayload = ((Stream.readPayload r).map some, d') := by
  cases r with
  | error e =>
    rw [nextPayload, h]
    rfl
  | ok event =>
    have hnext : d.next = (.ok (some event), d') := h
    simp only [nextPayload, hnext, Stream.readPayload]
    cases Json.readText Payload.reader event <;> rfl

theorem Counted.spends_nextPayload (h : d.Counted) : d.Spends d.nextPayload := by
  have hs := h.spends_next
  generalize hn : d.next = outcome at hs
  cases hs with
  | nothing hc hl =>
    rw [nextPayload_of_nothing hn]
    exact .nothing hc hl
  | result hc hlt =>
    rw [nextPayload_of_result hn]
    exact .result hc hlt

theorem Spends.map {α β : Type} {outcome : Except EventError (Option α) × Decoder} (h : d.Spends outcome)
    (f : α → β) : d.Spends (outcome.1.map (Option.map f), outcome.2) := by
  cases h with
  | nothing hc hl => exact .nothing hc hl
  | @result r d' hc hlt =>
    have hr : (r.map some).map (Option.map f) = (r.map f).map some := by cases r <;> rfl
    rw [hr]
    exact .result hc hlt

theorem Counted.spends_answer (h : d.Counted) (call : Call) : d.Spends (d.answer call) := by
  cases call with
  | next => exact h.spends_next.map Sum.inl
  | nextPayload => exact h.spends_nextPayload.map Sum.inr

section Drains

variable {α : Type} {steps : ℕ → Decoder → Except EventError (Option α) × Decoder}
  {step : Decoder → Except EventError (Option α) × Decoder} {results : List (Except EventError α)}

theorem exists_drains (hsteps : ∀ n (d : Decoder), d.Counted → d.Spends (steps n d)) (h : d.Counted) :
    ∃ results d', Drains steps d results d' ∧ results.length ≤ d.due ∧ d'.Settled := by
  induction hdue : d.due using Nat.strongRecOn generalizing d steps with
  | ind due ih =>
    have hs := hsteps 0 d h
    generalize hn : steps 0 d = outcome at hs
    cases hs with
    | @nothing d' _ hl => exact ⟨[], d', .nothing hn, Nat.zero_le _, hl⟩
    | @result r d' hc hlt =>
      obtain ⟨results, d'', hdrains, hlength, hl⟩ :=
        ih d'.due (hdue ▸ hlt) (fun n ↦ hsteps (n + 1)) hc rfl
      exact ⟨r :: results, d'', .result hn hdrains, by rw [List.length_cons]; omega, hl⟩

theorem Drains.drainWith_eq (h : Drains steps d results d') (hsteps : ∀ n, steps n = step)
    {fuel : ℕ} (hf : results.length < fuel) : drainWith step fuel d = (results, d') := by
  induction h generalizing fuel with
  | nothing hn =>
    obtain ⟨fuel, rfl⟩ := Nat.exists_eq_add_one.mpr hf
    rw [hsteps] at hn
    rw [drainWith, hn]
  | @result steps d d₁ d₂ r results hn _ ih =>
    rw [List.length_cons] at hf
    obtain ⟨fuel, rfl⟩ := Nat.exists_eq_add_one.mpr (Nat.zero_lt_of_lt hf)
    rw [hsteps] at hn
    have hrest := ih (fun n ↦ hsteps (n + 1)) (by omega : results.length < fuel)
    cases r with
    | error e =>
      have hcall : step d = (.error e, d₁) := hn
      simp only [drainWith, hcall, hrest]
    | ok a =>
      have hcall : step d = (.ok (some a), d₁) := hn
      simp only [drainWith, hcall, hrest]

theorem drains_drainWith (hstep : ∀ d : Decoder, d.Counted → d.Spends (step d)) (h : d.Counted) :
    Drains (fun _ ↦ step) d (drainWith step d.resultBound d).1 (drainWith step d.resultBound d).2 := by
  obtain ⟨results, d', hdrains, hlength, -⟩ := exists_drains (fun _ ↦ hstep) h
  have hle := due_le d
  have hbound : results.length < d.resultBound := by
    unfold resultBound
    omega
  rw [hdrains.drainWith_eq (fun _ ↦ rfl) hbound]
  exact hdrains

end Drains

theorem Counted.size_eq (h : d.Counted) : d.size = weight d.lines := by
  obtain ⟨data, bytes, rfl, -⟩ := h
  exact (weight_reverse data).symm

theorem Counted.size_le (h : d.Counted) : d.size ≤ maxEventSize := by
  obtain ⟨data, bytes, rfl, hw⟩ := h
  exact hw

/-- The size of a decoder is that of its values, and within the bound. Each call ends, after at most one
turn for each line end and one more; and so does draining, whichever calls it is done by: it yields at
most one result for each line end and one more, and leaves no complete line and no more than the bound.
The draining of either kind is such a draining. -/
theorem draining_ends (h : d.Reachable) :
    d.size = weight d.lines ∧ d.size ≤ maxEventSize ∧
      (∃ n ≤ d.buffer.count lineFeed + 1, d.Loops n d.next) ∧
      (∀ calls : ℕ → Call, ∃ results d', Drains (fun n d ↦ d.answer (calls n)) d results d' ∧
        results.length ≤ d.buffer.count lineFeed + 1 ∧
          lineFeed ∉ d'.buffer ∧ d'.buffer.length + d'.size ≤ maxEventSize) ∧
      Drains (fun _ ↦ next) d d.drain.1 d.drain.2 ∧
      Drains (fun _ ↦ nextPayload) d d.drainPayloads.1 d.drainPayloads.2 := by
  have hc := h.counted
  refine ⟨hc.size_eq, hc.size_le, exists_loops d, fun calls ↦ ?_,
    drains_drainWith (fun _ ↦ Counted.spends_next) hc,
    drains_drainWith (fun _ ↦ Counted.spends_nextPayload) hc⟩
  obtain ⟨results, d', hdrains, hlength, hsettled⟩ :=
    exists_drains (fun n _ h ↦ h.spends_answer (calls n)) hc
  exact ⟨results, d', hdrains, Nat.le_trans hlength (due_le d), hsettled.no_line, hsettled.held⟩

theorem draining_ends_inTurn :
    let d := empty.extend ([255] ++ lineFeed :: (dataLine [55] ++ lineFeed :: lineFeed :: [100]))
    d.Reachable ∧ d.buffer.count lineFeed = 3 ∧
      d.drain = ([.error .notText, .ok "7"], ⟨[100], [], 0⟩) ∧
      ∃ results d', Drains (fun n d ↦ d.answer (if n % 2 = 0 then .next else .nextPayload)) d results d' ∧
        results.length ≤ 4 ∧ lineFeed ∉ d'.buffer ∧ d'.buffer.length + d'.size ≤ maxEventSize := by
  intro d
  have hd : d.Reachable := .extend _ .new
  have hdrain : d.drain = ([.error .notText, .ok "7"], ⟨[100], [], 0⟩) := by rfl
  obtain ⟨-, -, -, hcalls, -, -⟩ := draining_ends hd
  exact ⟨hd, by decide, hdrain, hcalls fun n ↦ if n % 2 = 0 then .next else .nextPayload⟩

end Decoder

end FleetControl.Telemetry
