import FleetControl.Proofs.Dispatch.Single

namespace FleetControl.Dispatch

open Command (Status Event Failure Record)

variable {settings : Settings} {p : Retry.Policy} {s t : System} {labels : List Label}
  {messages sent : List Message} {id : Identifier} {e e' : Entry} {now : Instant} {event : Event}

theorem Entry.apply_record (h : e.apply now event = .ok e') :
    e'.record = { e.record.note now event with status := e'.record.status } := by
  cases hn : e.record.status.next? event with
  | none => simp [Entry.apply, Record.apply, hn, Except.map] at h
  | some status =>
    simp only [Entry.apply, Record.apply, hn, Except.map, Except.ok.injEq] at h
    rw [← h]

theorem Entry.apply_attempts (h : e.apply now event = .ok e') :
    e'.record.attempts = e.record.attempts := by
  rw [Entry.apply_record h]
  cases event <;> rfl

theorem Entry.apply_failure (h : e.apply now event = .ok e') {failure : Failure}
    (hf : e'.record.error = some failure) :
    event = .fail failure ∨ e.record.error = some failure := by
  rw [Entry.apply_record h] at hf
  cases event with
  | fail failure' => exact Or.inl (congrArg Event.fail (Option.some.inj hf))
  | _ => exact Or.inr hf

theorem Entry.recordAttempt_of_executing (h : e.record.status = .executing) (n : ℕ) :
    e.recordAttempt n = { e with record := { e.record with attempts := n } } :=
  if_pos h

theorem Entry.open_of_apply (h : e.apply now event = .ok e') :
    e.record.status.isTerminal = false := by
  have hn := (Entry.apply_ok h).1
  cases hs : e.record.status <;> simp_all [Status.next?, Status.isTerminal]

theorem status_of_fail {status status' : Status} {failure : Failure}
    (h : status.next? (.fail failure) = some status') : status' = .failed := by
  cases status <;> simp_all [Status.next?]

theorem verdict_settled {n : ℕ} {answer : Option (Retry.Answer Json)} {r : Retry.Result Json}
    (h : p.verdict n answer = .settled r) :
    (∃ v, answer = some (.value v) ∧ r = .ok ⟨v, n⟩) ∨
      ∃ error, answer = some (.terminal error) ∧ r = .error (.terminal n error) := by
  rcases answer with - | ⟨v | error | error⟩ <;>
    simp only [Retry.Policy.verdict, Retry.Verdict.settled.injEq, reduceCtorEq] at h
  · exact Or.inl ⟨v, rfl, h.symm⟩
  · exact Or.inr ⟨error, rfl, h.symm⟩

def Tells (p : Retry.Policy) (n : ℕ) : Failure → Prop
  | .unreachable m _ => m = n
  | .rejected _ => True
  | .deadline m => m = n ∨ p.overall = some 0 ∧ m = n + 1

def Hand.Counts (p : Retry.Policy) (n : ℕ) : Hand → Prop
  | .idle => True
  | .taken _ => n = 0
  | .delivering _ (.ready k) => k = n + 1 ∧ n < p.attempts
  | .delivering _ (.inFlight k) => k = n ∧ n ≤ p.attempts
  | .delivering _ (.waiting k) => k = n ∧ n < p.attempts
  | .settled _ event => ∀ failure, event = .fail failure → Tells p n failure

structure Counted (p : Retry.Policy) (r : Record) (n : ℕ) : Prop where
  attempts : r.attempts = n
  bound : n ≤ p.attempts
  unfailed : r.status.isTerminal = false → r.error = none
  told {failure : Failure} : r.error = some failure → Tells p n failure

theorem counted_new {r : Record} (ha : r.attempts = 0) (hf : r.error = none) : Counted p r 0 where
  attempts := ha
  bound := Nat.zero_le _
  unfailed _ := hf
  told h := by simp [hf] at h

theorem Counted.apply {n : ℕ} (h : Counted p e.record n) (ha : e.apply now event = .ok e')
    (ht : ∀ failure, event = .fail failure → Tells p n failure) : Counted p e'.record n where
  attempts := (Entry.apply_attempts ha).trans h.attempts
  bound := h.bound
  unfailed hs := by
    refine Option.eq_none_iff_forall_ne_some.mpr fun failure hf ↦ ?_
    rcases Entry.apply_failure ha hf with rfl | hf
    · simp [status_of_fail (Entry.apply_ok ha).1, Status.isTerminal] at hs
    · simp [h.unfailed (Entry.open_of_apply ha)] at hf
  told hf := (Entry.apply_failure ha hf).elim (ht _) h.told

theorem Counted.begun {n : ℕ} (h : Counted p e.record n) (hn : n < p.attempts)
    (hx : e.record.status = .executing) : Counted p (e.recordAttempt (n + 1)).record (n + 1) := by
  have hf : e.record.error = none := h.unfailed (by simp [hx, Status.isTerminal])
  rw [Entry.recordAttempt_of_executing hx]
  exact ⟨rfl, hn, fun _ ↦ hf, fun hf' ↦ by simp [hf] at hf'⟩

theorem Stage.Ends.tells {stage : Stage} {r : Retry.Result Json} {n : ℕ} (h : stage.Ends p r)
    (hc : (Hand.delivering id stage).Counts p n) {failure : Failure}
    (ho : outcome r = some (.fail failure)) : Tells p n failure := by
  cases h with
  | @settled k answer r hv =>
    rcases verdict_settled hv with ⟨a, -, rfl⟩ | ⟨error, -, rfl⟩
    · simp [outcome] at ho
    · simp only [outcome, Option.some.injEq, Event.fail.injEq] at ho
      exact ho ▸ trivial
  | @exhausted k answer error hv hk =>
    simp only [outcome, Option.some.injEq, Event.fail.injEq] at ho
    exact ho ▸ hc.1
  | @expired stage hx =>
    simp only [outcome, Option.some.injEq, Event.fail.injEq] at ho
    subst ho
    cases stage with
    | ready k => exact Or.inr ⟨by simpa [Stage.mayExpire] using hx, hc.1⟩
    | inFlight k => exact Or.inl hc.1
    | waiting k => exact Or.inl hc.1

theorem Hand.Moves.counted {hand : Hand} {step : Step} {n : ℕ} (h : hand.Moves p e step)
    (hs : hand.Suits e) (hsig : e.Signalled) (hc : hand.Counts p n) (he : Counted p e.record n) :
    Counted p step.entry.record (n + step.sent.toList.length) ∧
      step.hand.Counts p (n + step.sent.toList.length) := by
  cases h with
  | dispatched ha =>
    obtain rfl : n = 0 := hc
    exact ⟨he.apply ha (by simp), rfl, Nat.lt_of_lt_of_le Nat.one_pos (Nat.le_max_right _ _)⟩
  | skipped => exact ⟨he, trivial⟩
  | @begun id k hi =>
    obtain ⟨rfl, hn⟩ := hc
    -- a cancelled command is interrupted, so the number is written to this one
    have hx : e.record.status = .executing :=
      hs.resolve_right fun hcancelled ↦ by simp [hsig.mpr hcancelled] at hi
    exact ⟨he.begun hn hx, rfl, hn⟩
  | failed _ _ hn => exact ⟨he, hc.1, hc.1 ▸ hn⟩
  | waited => exact ⟨he, congrArg (· + 1) hc.1, hc.2⟩
  | ended _ hends ho => exact ⟨he, fun failure hf ↦ hends.tells hc (hf ▸ ho)⟩
  | withdrawn => exact ⟨he, trivial⟩
  | noted ha => exact ⟨he.apply ha hc, trivial⟩
  | discarded => exact ⟨he, trivial⟩

/-- The counts of all commands, in their records and on the lanes, are those of the requests. -/
structure Tallied (p : Retry.Policy) (s : System) (messages : List Message) : Prop where
  records {id : Identifier} {e : Entry} : s.entryOf? id = some e →
    Counted p e.record (attempts id messages)
  hands : s.InHand fun hand e ↦ hand.Counts p e.record.attempts

theorem tallied_empty : Tallied p .empty [] where
  records h := by cases h
  hands := System.inHand_empty

namespace Tallied

theorem counted (h : Tallied p s messages) (hs : Custody s) {l : Lane} {step : Step}
    (hl : s.lane? l.device = some l) (hc : l.hand.command? = some id)
    (he : s.entryOf? id = some e) (hm : l.hand.Moves p e step) :
    Counted p step.entry.record (attempts id messages + step.sent.toList.length) ∧
      step.hand.Counts p (attempts id messages + step.sent.toList.length) := by
  have hr := h.records he
  have hcounts : l.hand.Counts p e.record.attempts := h.hands.of_lane? hl hc he
  exact hm.counted (hs.inHand.of_lane? hl hc he) (hs.signalled he) (hr.attempts ▸ hcounts) hr

theorem moves (h : Tallied p s messages) (hs : Custody s) (hv : Served p s messages)
    (hm : s.Moves settings p t sent) : Tallied p t (messages ++ sent) := by
  constructor
  case records =>
    intro id e he
    rw [attempts_append]
    cases hm.touches id with
    | spared ht hz =>
      rw [hz, Nat.add_zero]
      exact h.records (ht ▸ he)
    | created hn ht hz =>
      obtain rfl := Option.some.inj (ht.symm.trans he)
      rw [hz, hv.unknown hn]
      exact counted_new rfl rfl
    | @withdrawn e₀ e' now he₀ ha ht hz =>
      obtain rfl := Option.some.inj (ht.symm.trans he)
      rw [hz, Nat.add_zero]
      have hr : Counted p e'.record (attempts id messages) := (h.records he₀).apply ha (by simp)
      exact hr
    | advanced hl hc he₀ hstep ht hz =>
      obtain rfl := Option.some.inj (ht.symm.trans he)
      rw [hz]
      exact (h.counted hs hl hc he₀ hstep).1
  case hands =>
    cases hm with
    | submitted _ _ hn => exact h.hands.accept hs hn
    | unchanged => exact h.hands
    | @cancelled id e e' now he ha =>
      refine h.hands.cancel he (Entry.apply_ok ha).2.1 fun hand hc ↦ ?_
      exact (Entry.apply_attempts ha).symm ▸ hc
    | @taken l id rest hl hh hq =>
      have hw : id ∈ (s.laneOf l.device).waiting := by
        rw [Lane.mem_waiting, System.laneOf_of_lane? hl, hq]
        exact Or.inr List.mem_cons_self
      exact h.hands.start hl fun e he ↦ (h.records he).attempts.trans (hv.untried hw)
    | happened hl hc he hstep =>
      obtain ⟨hr, hcounts⟩ := h.counted hs hl hc he hstep
      exact h.hands.advance hs hl hc he hstep (hr.attempts.symm ▸ hcounts)

end Tallied

theorem Run.tallied (h : Run settings p .empty labels messages s) : Tallied p s messages :=
  (h.keeps (P := fun t before ↦ (Custody t ∧ Served p t before) ∧ Tallied p t before)
    ⟨⟨custody_empty, served_empty⟩, tallied_empty⟩
    fun _ _ _ _ ⟨⟨hc, hv⟩, ht⟩ hm ↦ ⟨⟨hc.moves hm, hv.moves hc hm⟩, ht.moves hc hv hm⟩).2

/-- The attempts that a record tells are the requests sent for its command. They are never more than
the policy allows and never become fewer. A failure tells the same number, except that one for want of
time, in a delivery that is given none, counts the attempt that did not begin. -/
theorem attempts_counted (h : Run settings p .empty labels messages s)
    (he : s.entryOf? id = some e) :
    e.record.attempts = attempts id messages ∧ e.record.attempts ≤ max p.maxAttempts 1 ∧
    (∀ labels' messages' t, Run settings p s labels' messages' t →
      ∃ e', t.entryOf? id = some e' ∧ e.record.attempts ≤ e'.record.attempts) ∧
    (∀ n error, e.record.error = some (.unreachable n error) → n = e.record.attempts) ∧
    (∀ n, e.record.error = some (.deadline n) → n = e.record.attempts ∨
      p.overall = some 0 ∧ n = e.record.attempts + 1) := by
  have hr := h.tallied.records he
  refine ⟨hr.attempts, hr.attempts ▸ hr.bound, ?_, ?_, ?_⟩
  · intro labels' messages' t hrun
    obtain ⟨e', he', -⟩ := hrun.tracked he
    refine ⟨e', he', ?_⟩
    rw [hr.attempts, ((h.trans hrun).tallied.records he').attempts, attempts_append]
    exact Nat.le_add_right _ _
  · intro n error hf
    exact hr.attempts.symm ▸ hr.told hf
  · intro n hf
    exact hr.attempts.symm ▸ hr.told hf

/-- A delivery that is given no time, and is over before its first attempt. -/
def noTime : List Label :=
  [.submit ⟨1⟩ (.ofMillis 0) ⟨"drone-1", "capture_photo", [], none, false⟩, .take "drone-1",
    .happen "drone-1" (.dispatch (.ofMillis 0)), .happen "drone-1" .deadline,
    .happen "drone-1" (.settle (.ofMillis 0))]

theorem failure_counts_unsent : ∃ messages s e,
    Run .standard { Retry.Policy.standard with overall := some 0 } .empty noTime messages s ∧
      s.entryOf? ⟨1⟩ = some e ∧ attempts ⟨1⟩ messages = 0 ∧ e.record.attempts = 0 ∧
      e.record.error = some (.deadline 1) := by
  obtain ⟨⟨s, messages⟩, hs⟩ : ∃ result, System.empty.replay .standard
      { Retry.Policy.standard with overall := some 0 } noTime = some result :=
    Option.isSome_iff_exists.mp (by decide)
  have hseen : (System.empty.replay .standard { Retry.Policy.standard with overall := some 0 }
      noTime).map (fun result ↦ (attempts ⟨1⟩ result.2, (result.1.entryOf? ⟨1⟩).map fun e ↦
        (e.record.attempts, e.record.error))) = some (0, some (0, some (.deadline 1))) := by decide
  rw [hs, Option.map_some, Option.some.injEq, Prod.mk.injEq] at hseen
  obtain ⟨e, he, hx⟩ := Option.map_eq_some_iff.mp hseen.2
  obtain ⟨hn, hf⟩ := Prod.mk.inj hx
  exact ⟨messages, s, e, run_of_replay hs, he, hseen.1, hn, hf⟩

theorem attempts_counted_two : ∃ messages s e,
    Run .standard .standard .empty threeCommands messages s ∧ s.entryOf? ⟨2⟩ = some e ∧
      attempts ⟨2⟩ messages = 2 ∧ e.record.attempts = 2 := by
  obtain ⟨⟨s, messages⟩, hs⟩ : ∃ result,
      System.empty.replay .standard .standard threeCommands = some result :=
    Option.isSome_iff_exists.mp (by decide)
  have hseen : (System.empty.replay .standard .standard threeCommands).map (fun result ↦
      (attempts ⟨2⟩ result.2, (result.1.entryOf? ⟨2⟩).isSome)) = some (2, true) := by decide
  rw [hs, Option.map_some, Option.some.injEq, Prod.mk.injEq] at hseen
  obtain ⟨e, he⟩ := Option.isSome_iff_exists.mp hseen.2
  have hrun := run_of_replay hs
  exact ⟨messages, s, e, hrun, he, hseen.1, (attempts_counted hrun he).1.trans hseen.1⟩

end FleetControl.Dispatch
