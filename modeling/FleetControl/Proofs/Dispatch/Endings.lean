import FleetControl.Proofs.Dispatch.Attempts
import FleetControl.Proofs.Dispatch.Origin

namespace FleetControl.Command

def Record.EndedBy (r : Record) : Event → Prop
  | .complete result => r.result = some result
  | .fail failure => r.error = some failure
  | _ => False

def Failure.AtMost (m : ℕ) : Failure → Prop
  | .unreachable n _ | .deadline n => n ≤ m
  | .rejected _ => True

theorem Record.not_endedBy_new {id : Identifier} {now : Instant} {device : String} {action : Action}
    {parameters : Json.Fields} {priority : ℕ} {event : Event} :
    ¬(new id now device action parameters priority).EndedBy event := by
  cases event <;> simp [new, EndedBy]

theorem Record.endedBy_note {r : Record} {now : Instant} {event ending : Event} {status : Status}
    (h : ({ r.note now event with status := status } : Record).EndedBy ending) :
    ending = event ∨ r.EndedBy ending := by
  cases event <;> cases ending <;> simp_all [note, EndedBy]

theorem Record.result_note {r : Record} {now : Instant} {event : Event} {status : Status}
    (h : r.result.isSome ↔ r.status = .completed) (hn : r.status.next? event = some status) :
    (r.note now event).result.isSome ↔ status = .completed := by
  cases hs : r.status <;> cases event <;> simp_all [note, Status.next?]
  all_goals
    subst hn
    simp

end FleetControl.Command

namespace FleetControl.Dispatch

open Command (Status Event Failure Record)

variable {settings : Settings} {p : Retry.Policy} {s t : System} {labels : List Label}
  {messages sent : List Message} {id : Identifier} {e : Entry} {event : Event} {device : String}

/-- What the record of a command can be after a step. -/
inductive System.RecordAfter (s : System) (id : Identifier) : Record → Prop
  | fresh (now : Instant) (order : Order) :
    RecordAfter s id (.new id now order.device order.action order.parameters order.priority)
  | kept {e : Entry} : s.entryOf? id = some e → RecordAfter s id e.record
  | tried {e : Entry} (n : ℕ) :
    s.entryOf? id = some e → RecordAfter s id { e.record with attempts := n }
  | noted {e : Entry} {now : Instant} {event : Event} {status : Status} :
    s.entryOf? id = some e → e.record.status.next? event = some status →
      (event = .dispatch ∨ event = .cancel ∨
        ∃ device, (s.laneOf device).hand = .settled id event) →
      RecordAfter s id { e.record.note now event with status := status }

theorem System.recordAfter_of_apply {now : Instant} {e e' : Entry} (he : s.entryOf? id = some e)
    (ha : e.apply now event = .ok e') (hevent : event = .dispatch ∨ event = .cancel ∨
      ∃ device, (s.laneOf device).hand = .settled id event) : s.RecordAfter id e'.record := by
  rw [Entry.apply_record ha]
  exact .noted he (Entry.apply_ok ha).1 hevent

theorem System.Moves.recordAfter (h : s.Moves settings p t sent) (he : t.entryOf? id = some e) :
    s.RecordAfter id e.record := by
  cases h.touches id with
  | spared ht => exact .kept (ht ▸ he)
  | @created now order _ ht =>
    obtain rfl := Option.some.inj (ht.symm.trans he)
    exact .fresh now order
  | withdrawn he₀ ha ht =>
    obtain rfl := Option.some.inj (ht.symm.trans he)
    have hafter := recordAfter_of_apply he₀ ha (Or.inr (Or.inl rfl))
    exact hafter
  | @advanced l e₀ step hl hc he₀ hm ht =>
    obtain rfl := Option.some.inj (ht.symm.trans he)
    generalize hhand : l.hand = hand at hm hc
    cases hm with
    | dispatched ha => exact recordAfter_of_apply he₀ ha (Or.inl rfl)
    | @begun id n =>
      by_cases hx : e₀.record.status = .executing
      · rw [Entry.recordAttempt_of_executing hx]
        exact .tried n he₀
      · rw [Entry.recordAttempt, if_neg hx]
        exact .kept he₀
    | noted ha =>
      obtain rfl := Option.some.inj hc
      refine recordAfter_of_apply he₀ ha (Or.inr (Or.inr ⟨l.device, ?_⟩))
      rw [laneOf_of_lane? hl, hhand]
    | _ => exact .kept he₀

theorem System.RecordAfter.endedBy {r : Record} (h : s.RecordAfter id r) (hr : r.EndedBy event) :
    (∃ e, s.entryOf? id = some e ∧ e.record.EndedBy event) ∨
      ∃ device, (s.laneOf device).hand = .settled id event := by
  cases h with
  | fresh => exact absurd hr Record.not_endedBy_new
  | kept he => exact Or.inl ⟨_, he, hr⟩
  | tried n he =>
    refine Or.inl ⟨_, he, ?_⟩
    cases event <;> exact hr
  | noted he _ hevent =>
    rcases Record.endedBy_note hr with rfl | hbefore
    · rcases hevent with rfl | rfl | hhand
      · exact hr.elim
      · exact hr.elim
      · exact Or.inr hhand
    · exact Or.inl ⟨_, he, hbefore⟩

/-- A record has a result if its command is completed, and only then. -/
theorem Run.completed (h : Run settings p .empty labels messages s)
    (he : s.entryOf? id = some e) : e.record.result.isSome ↔ e.record.status = .completed := by
  have hall := h.keeps (P := fun t _ ↦ ∀ id e, t.entryOf? id = some e →
    (e.record.result.isSome ↔ e.record.status = .completed)) (fun _ _ he ↦ by cases he) ?_
  · exact hall id e he
  · intro t u before sent ht hm id e he
    have hafter := hm.recordAfter he
    generalize e.record = r at hafter
    cases hafter with
    | fresh => simp [Record.new]
    | kept he₀ => exact ht id _ he₀
    | tried n he₀ => exact ht id _ he₀
    | noted he₀ hn => exact Record.result_note (ht id _ he₀) hn

theorem Hand.Counts.attempt_le {stage : Stage} {n : ℕ}
    (h : (Hand.delivering id stage).Counts p n) : stage.attempt ≤ p.attempts := by
  cases stage with
  | ready k => exact h.1 ▸ h.2
  | inFlight k => exact h.1 ▸ h.2
  | waiting k => exact h.1 ▸ Nat.le_of_lt h.2

theorem Stage.Ends.atMost {stage : Stage} {r : Retry.Result Json} {failure : Failure}
    (h : stage.Ends p r) (hs : stage.attempt ≤ p.attempts)
    (ho : outcome r = some (.fail failure)) : failure.AtMost p.attempts := by
  cases h with
  | settled hv =>
    rcases verdict_settled hv with ⟨a, -, rfl⟩ | ⟨error, -, rfl⟩
    · simp [outcome] at ho
    · simp only [outcome, Option.some.injEq, Event.fail.injEq] at ho
      exact ho ▸ trivial
  | _ =>
    simp only [outcome, Option.some.injEq, Event.fail.injEq] at ho
    exact ho ▸ hs

theorem Hand.outcome_of_ofResult {r : Retry.Result Json} {id' : Identifier}
    (h : Hand.ofResult id r = .settled id' event) : outcome r = some event := by
  unfold Hand.ofResult at h
  cases ho : outcome r with
  | none => simp [ho] at h
  | some ending =>
    rw [ho] at h
    exact congrArg some (Hand.settled.inj h).2

theorem Hand.eq_value_of_afterAttempt {id' : Identifier} {n : ℕ}
    {answer : Option (Retry.Answer Json)} {body : Json}
    (h : Hand.afterAttempt p id n answer = .settled id' (.complete body)) :
    answer = some (.value body) := by
  unfold Hand.afterAttempt at h
  cases hv : p.verdict n answer with
  | settled r =>
    rw [hv] at h
    have ho := outcome_of_ofResult h
    rcases verdict_settled hv with ⟨a, rfl, rfl⟩ | ⟨error, -, rfl⟩
    · obtain rfl : a = body := by simpa [outcome] using ho
      rfl
    · simp [outcome] at ho
  | failed error =>
    simp only [hv] at h
    split at h
    · cases h
    · have ho := outcome_of_ofResult h
      simp [outcome] at ho

theorem Hand.answered_of_step {hand : Hand} {happening : Happening} {step : Step} {body : Json}
    (hs : hand.step p e happening = some step) (hh : step.hand = .settled id (.complete body)) :
    happening = .answered (.value body) := by
  cases Hand.moves_of_step hs with
  | @ended id' stage r event hi =>
    obtain ⟨rfl, rfl⟩ := Hand.settled.inj hh
    cases happening with
    | answered a =>
      cases stage with
      | inFlight n =>
        simp only [Hand.step, hi, Bool.false_eq_true, if_false, Option.some.injEq,
          Step.mk.injEq] at hs
        obtain rfl := Option.some.inj (eq_value_of_afterAttempt hs.1)
        rfl
      | _ => simp [Hand.step, hi] at hs
    | late =>
      cases stage with
      | inFlight n =>
        simp only [Hand.step, hi, Bool.false_eq_true, if_false, Option.some.injEq,
          Step.mk.injEq] at hs
        cases eq_value_of_afterAttempt hs.1
      | _ => simp [Hand.step, hi] at hs
    | deadline =>
      have hhand : Hand.ofResult id' (.error (.deadline stage.attempt)) =
          .settled id' (.complete body) := by
        cases hm : stage.mayExpire p <;> cases stage <;> simp_all [Hand.step]
      cases outcome_of_ofResult hhand
    | _ => cases stage <;> simp [Hand.step, hi] at hs
  | _ => cases hh

theorem System.ended_of_step {label : Label} (h : s.step settings p label = some (t, sent))
    (ht : (t.laneOf device).hand = .settled id event) :
    (s.laneOf device).hand = .settled id event ∨ ∃ happening stage r,
      label = .happen device happening ∧ (s.laneOf device).hand = .delivering id stage ∧
      stage.Ends p r ∧ outcome r = some event ∧
      ∀ body, event = .complete body → happening = .answered (.value body) := by
  cases does_of_step h with
  | rejected => exact Or.inl ht
  | submitted =>
    rw [hand_accept] at ht
    exact Or.inl ht
  | refused => exact Or.inl ht
  | cancelled => exact Or.inl ht
  | taken hl =>
    rw [laneOf_start hl] at ht
    split at ht
    · cases ht
    · exact Or.inl ht
  | @happened l _ _ happening _ hl hc he hstep =>
    rw [laneOf_advance hl] at ht
    split at ht
    next hd =>
      subst hd
      rw [laneOf_of_lane? hl]
      have hbody := fun body (hb : event = .complete body) ↦
        Hand.answered_of_step hstep (hb ▸ ht)
      generalize hhand : l.hand = hand at hstep
      cases Hand.moves_of_step hstep with
      | @ended _ stage r _ _ hends ho =>
        obtain ⟨rfl, rfl⟩ := Hand.settled.inj ht
        exact Or.inr ⟨happening, stage, r, rfl, rfl, hends, ho, hbody⟩
      | _ => cases ht
    next => exact Or.inl ht

def Explains (p : Retry.Policy) (labels : List Label) : Event → Prop
  | .complete result => result ∈ documents labels
  | .fail failure => failure.AtMost p.attempts
  | _ => True

theorem Explains.append (h : Explains p labels event) (more : List Label) :
    Explains p (labels ++ more) event := by
  cases event with
  | complete result =>
    rw [Explains, documents, List.filterMap_append]
    exact List.mem_append_left _ h
  | _ => exact h

/-- All ends of deliveries, in hand and in the records, are explained by a run over some labels. -/
structure Explained (p : Retry.Policy) (labels : List Label) (s : System) : Prop where
  hands {device : String} {id : Identifier} {event : Event} :
    (s.laneOf device).hand = .settled id event → Explains p labels event
  records {id : Identifier} {e : Entry} {event : Event} :
    s.entryOf? id = some e → e.record.EndedBy event → Explains p labels event

theorem explained_empty : Explained p [] .empty where
  hands h := by cases h
  records h := by cases h

theorem Explained.step {label : Label} (h : Explained p labels s) (hs : Tallied p s messages)
    (hc : Custody s) (hl : s.admits label) (hstep : s.step settings p label = some (t, sent)) :
    Explained p (labels ++ [label]) t := by
  constructor
  case hands =>
    intro device id event ht
    rcases System.ended_of_step hstep ht with hb | ⟨happening, stage, r, rfl, hd, hends, ho, hbody⟩
    · exact (h.hands hb).append _
    · -- a delivery has come to its end, with a reply or with what the policy makes of it
      cases event with
      | complete body =>
        obtain rfl := hbody body rfl
        rw [Explains, documents, List.filterMap_append]
        exact List.mem_append_right _ List.mem_cons_self
      | fail failure =>
        have hcommand : (s.laneOf device).hand.command? = some id := by rw [hd]; rfl
        obtain ⟨e, he, -⟩ := hc.owned (Lane.held_of_command? hcommand)
        have hcounts := hs.hands hcommand he
        rw [hd] at hcounts
        exact hends.atMost hcounts.attempt_le ho
      | _ => trivial
  case records =>
    intro id e event he hended
    have hafter := (System.moves_of_step hl hstep).recordAfter he
    rcases hafter.endedBy hended with ⟨e₀, he₀, hended₀⟩ | ⟨device, hhand⟩
    · exact (h.records he₀ hended₀).append _
    · exact (h.hands hhand).append _

theorem Run.explained (h : Run settings p .empty labels messages s) : Explained p labels s := by
  induction h with
  | nil => exact explained_empty
  | snoc hrun hl hs ih => exact ih.step hrun.tallied hrun.custody hl hs

theorem Run.submitted (h : Run settings p .empty labels messages s) (he : s.entryOf? id = some e) :
    e.record.priority ≤ 10 ∧ Json.object e.record.parameters ∈ documents labels := by
  have hrequest : s.request? id = some (.ofRecord e.record) := by
    rw [System.request?, he, Option.map_some]
  obtain ⟨now, submission, order, hm, ha, hr⟩ := (h.request? id).2 _ hrequest
  have hp := Submission.permits_of_accept ha
  have hpriority : e.record.priority = order.priority := congrArg Command.Request.priority hr
  have hparameters : e.record.parameters = submission.parameters :=
    (congrArg Command.Request.parameters hr).trans hp.parameters
  refine ⟨hpriority ▸ hp.priority_range.2, ?_⟩
  rw [hparameters]
  exact List.mem_filterMap.mpr ⟨_, hm, rfl⟩

end FleetControl.Dispatch
