import FleetControl.Proofs.Dispatch.Lookup

namespace FleetControl.Dispatch

inductive Stage.Ends (p : Retry.Policy) : Stage → Retry.Result Json → Prop
  | settled {n : ℕ} {answer : Option (Retry.Answer Json)} {r : Retry.Result Json} :
    p.verdict n answer = .settled r → Ends p (.inFlight n) r
  | exhausted {n : ℕ} {answer : Option (Retry.Answer Json)} {error : String} :
    p.verdict n answer = .failed error → p.attempts ≤ n →
      Ends p (.inFlight n) (.error (.exhausted n error))
  | expired {stage : Stage} :
    stage.mayExpire p = true → Ends p stage (.error (.deadline stage.attempt))

/-- What can happen to the command in hand: the hand before, and the step that is made. -/
inductive Hand.Moves (p : Retry.Policy) (e : Entry) : Hand → Step → Prop
  | dispatched {id : Identifier} {now : Instant} {e' : Entry} :
    e.apply now .dispatch = .ok e' → Moves p e (.taken id) ⟨.delivering id (.ready 1), e', none⟩
  | skipped {id : Identifier} {now : Instant} {bad : Command.InvalidTransition} :
    e.apply now .dispatch = .error bad → Moves p e (.taken id) ⟨.idle, e, none⟩
  | begun {id : Identifier} {n : ℕ} :
    e.interrupted = false → Moves p e (.delivering id (.ready n))
      ⟨.delivering id (.inFlight n), e.recordAttempt n, some (.ofRecord e.record)⟩
  | failed {id : Identifier} {n : ℕ} {answer : Option (Retry.Answer Json)} {error : String} :
    e.interrupted = false → p.verdict n answer = .failed error → n < p.attempts →
      Moves p e (.delivering id (.inFlight n)) ⟨.delivering id (.waiting n), e, none⟩
  | waited {id : Identifier} {n : ℕ} :
    e.interrupted = false →
      Moves p e (.delivering id (.waiting n)) ⟨.delivering id (.ready (n + 1)), e, none⟩
  | ended {id : Identifier} {stage : Stage} {r : Retry.Result Json} {event : Command.Event} :
    e.interrupted = false → stage.Ends p r → outcome r = some event →
      Moves p e (.delivering id stage) ⟨.settled id event, e, none⟩
  | withdrawn {id : Identifier} {stage : Stage} :
    e.interrupted = true → Moves p e (.delivering id stage) ⟨.idle, e, none⟩
  | noted {id : Identifier} {event : Command.Event} {now : Instant} {e' : Entry} :
    e.apply now event = .ok e' → Moves p e (.settled id event) ⟨.idle, e', none⟩
  | discarded {id : Identifier} {event : Command.Event} {now : Instant}
      {bad : Command.InvalidTransition} :
    e.apply now event = .error bad → Moves p e (.settled id event) ⟨.idle, e, none⟩

theorem outcome_of_ends {p : Retry.Policy} {stage : Stage} {r : Retry.Result Json}
    (h : stage.Ends p r) : ∃ event, outcome r = some event := by
  cases h with
  | @settled n answer r hv =>
    cases answer with
    | none => simp [Retry.Policy.verdict] at hv
    | some a =>
      cases a with
      | value a =>
        simp only [Retry.Policy.verdict, Retry.Verdict.settled.injEq] at hv
        exact ⟨.complete a, by simp [← hv, outcome]⟩
      | transient error => simp [Retry.Policy.verdict] at hv
      | terminal error =>
        simp only [Retry.Policy.verdict, Retry.Verdict.settled.injEq] at hv
        exact ⟨.fail (.rejected error), by simp [← hv, outcome]⟩
  | @exhausted n answer error => exact ⟨.fail (.unreachable n error), rfl⟩
  | @expired stage => exact ⟨.fail (.deadline stage.attempt), rfl⟩

theorem Hand.Moves.ofResult {p : Retry.Policy} {e : Entry} {id : Identifier} {stage : Stage}
    {r : Retry.Result Json} (hi : e.interrupted = false) (h : stage.Ends p r) :
    Moves p e (.delivering id stage) ⟨.ofResult id r, e, none⟩ := by
  obtain ⟨event, he⟩ := outcome_of_ends h
  have hr : Hand.ofResult id r = .settled id event := by simp [Hand.ofResult, he]
  rw [hr]
  exact .ended hi h he

theorem Hand.Moves.afterAttempt {p : Retry.Policy} {e : Entry} {id : Identifier} {n : ℕ}
    (hi : e.interrupted = false) (answer : Option (Retry.Answer Json)) :
    Moves p e (.delivering id (.inFlight n)) ⟨.afterAttempt p id n answer, e, none⟩ := by
  unfold Hand.afterAttempt
  cases hv : p.verdict n answer with
  | settled r => exact .ofResult hi (.settled hv)
  | failed error =>
    dsimp only
    split
    · rename_i hn
      exact .failed hi hv hn
    · rename_i hn
      exact .ofResult hi (.exhausted hv (Nat.le_of_not_lt hn))

theorem Hand.moves_of_taken {p : Retry.Policy} {id : Identifier} {e : Entry} {h : Happening}
    {step : Step} (hs : (Hand.taken id).step p e h = some step) :
    (Hand.taken id).Moves p e step := by
  cases h with
  | dispatch now =>
    cases ha : e.apply now .dispatch with
    | ok e' =>
      simp only [Hand.step, ha, Option.some.injEq] at hs
      exact hs ▸ .dispatched ha
    | error bad =>
      simp only [Hand.step, ha, Option.some.injEq] at hs
      exact hs ▸ .skipped ha
  | _ => simp [Hand.step] at hs

theorem Hand.moves_of_settled {p : Retry.Policy} {id : Identifier} {event : Command.Event}
    {e : Entry} {h : Happening} {step : Step}
    (hs : (Hand.settled id event).step p e h = some step) :
    (Hand.settled id event).Moves p e step := by
  cases h with
  | settle now =>
    cases ha : e.apply now event with
    | ok e' =>
      simp only [Hand.step, ha, Option.some.injEq] at hs
      exact hs ▸ .noted ha
    | error bad =>
      simp only [Hand.step, ha, Option.some.injEq] at hs
      exact hs ▸ .discarded ha
  | _ => simp [Hand.step] at hs

theorem Hand.moves_of_interrupted {p : Retry.Policy} {id : Identifier} {stage : Stage} {e : Entry}
    {h : Happening} {step : Step} (hi : e.interrupted = true)
    (hs : (Hand.delivering id stage).step p e h = some step) :
    (Hand.delivering id stage).Moves p e step := by
  cases h with
  | interrupted =>
    simp only [Hand.step, hi, if_true, Option.some.injEq] at hs
    exact hs ▸ .withdrawn hi
  | _ => simp [Hand.step, hi] at hs

/-- A deadline may come at every stage, anything else only at the stage that it belongs to. -/
theorem Hand.moves_of_deadline {p : Retry.Policy} {id : Identifier} {stage : Stage} {e : Entry}
    {step : Step} (hi : e.interrupted = false)
    (hs : (Hand.delivering id stage).step p e .deadline = some step) :
    (Hand.delivering id stage).Moves p e step := by
  cases hm : stage.mayExpire p with
  | true =>
    have hr : step = ⟨.ofResult id (.error (.deadline stage.attempt)), e, none⟩ := by
      cases stage <;> simpa [Hand.step, hi, hm, eq_comm] using hs
    exact hr ▸ .ofResult hi (.expired hm)
  | false => cases stage <;> simp [Hand.step, hi, hm] at hs

theorem Hand.moves_of_delivering {p : Retry.Policy} {id : Identifier} {stage : Stage} {e : Entry}
    {h : Happening} {step : Step} (hi : e.interrupted = false) (hh : h ≠ .deadline)
    (hs : (Hand.delivering id stage).step p e h = some step) :
    (Hand.delivering id stage).Moves p e step := by
  cases stage with
  | ready n =>
    cases h with
    | begin =>
      simp only [Hand.step, hi, Bool.false_eq_true, if_false, Option.some.injEq] at hs
      exact hs ▸ .begun hi
    | deadline => exact absurd rfl hh
    | _ => simp [Hand.step, hi] at hs
  | inFlight n =>
    cases h with
    | answered a =>
      simp only [Hand.step, hi, Bool.false_eq_true, if_false, Option.some.injEq] at hs
      exact hs ▸ .afterAttempt hi (some a)
    | late =>
      simp only [Hand.step, hi, Bool.false_eq_true, if_false, Option.some.injEq] at hs
      exact hs ▸ .afterAttempt hi none
    | deadline => exact absurd rfl hh
    | _ => simp [Hand.step, hi] at hs
  | waiting n =>
    cases h with
    | waited =>
      simp only [Hand.step, hi, Bool.false_eq_true, if_false, Option.some.injEq] at hs
      exact hs ▸ .waited hi
    | deadline => exact absurd rfl hh
    | _ => simp [Hand.step, hi] at hs

theorem Hand.moves_of_step {p : Retry.Policy} {hand : Hand} {e : Entry} {h : Happening}
    {step : Step} (hs : hand.step p e h = some step) : hand.Moves p e step := by
  cases hand with
  | idle => cases h <;> simp [Hand.step] at hs
  | taken id => exact moves_of_taken hs
  | settled id event => exact moves_of_settled hs
  | delivering id stage =>
    cases hi : e.interrupted with
    | true => exact moves_of_interrupted hi hs
    | false =>
      by_cases hh : h = .deadline
      · exact moves_of_deadline hi (hh ▸ hs)
      · exact moves_of_delivering hi hh hs

namespace System

def accept (s : System) (record : Command.Record) : System :=
  ({ s with entries := s.entries ++ [.new record] } : System).enqueue record.device record.id

def start (s : System) (l : Lane) (id : Identifier) (rest : List Identifier) : System :=
  s.setLane ⟨l.device, rest, .taken id⟩

def advance (s : System) (l : Lane) (id : Identifier) (step : Step) : System :=
  (s.setEntry id step.entry).setLane { l with hand := step.hand }

end System

/-- What the dispatcher can do in one step, with the messages that it sends. -/
inductive System.Moves (settings : Settings) (p : Retry.Policy) (s : System) :
    System → List Message → Prop
  | submitted {id : Identifier} {now : Instant} {submission : Submission} {order : Order}
      {record : Command.Record} :
    submission.accept settings = .ok order →
      record = .new id now order.device order.action order.parameters order.priority →
      s.entryOf? record.id = none → Moves settings p s (s.accept record) []
  | unchanged : Moves settings p s s []
  | cancelled {id : Identifier} {e e' : Entry} {now : Instant} :
    s.entryOf? id = some e → e.apply now .cancel = .ok e' →
      Moves settings p s (s.setEntry id e'.interrupt) [.cancel id]
  | taken {l : Lane} {id : Identifier} {rest : List Identifier} :
    s.lane? l.device = some l → l.hand = .idle → l.queue = id :: rest →
      Moves settings p s (s.start l id rest) []
  | happened {l : Lane} {id : Identifier} {e : Entry} {step : Step} :
    s.lane? l.device = some l → l.hand.command? = some id → s.entryOf? id = some e →
      l.hand.Moves p e step →
        Moves settings p s (s.advance l id step) (step.sent.toList.map .submit)

/-- The same with the label that it does it for. A submission or a cancellation that fails is possible
and changes nothing. -/
inductive System.Does (settings : Settings) (p : Retry.Policy) (s : System) :
    Label → System → List Message → Prop
  | rejected {id : Identifier} {now : Instant} {submission : Submission}
      {error : Service.Error} :
    submission.accept settings = .error error →
      Does settings p s (.submit id now submission) s []
  | submitted {id : Identifier} {now : Instant} {submission : Submission} {order : Order} :
    submission.accept settings = .ok order → Does settings p s (.submit id now submission)
      (s.accept (.new id now order.device order.action order.parameters order.priority)) []
  | refused {id : Identifier} {now : Instant} {error : Service.Error} :
    s.cancel id now = .error error → Does settings p s (.cancel id now) s []
  | cancelled {id : Identifier} {e e' : Entry} {now : Instant} :
    s.entryOf? id = some e → e.apply now .cancel = .ok e' →
      Does settings p s (.cancel id now) (s.setEntry id e'.interrupt) [.cancel id]
  | taken {l : Lane} {id : Identifier} {rest : List Identifier} :
    s.lane? l.device = some l → l.hand = .idle → l.queue = id :: rest →
      Does settings p s (.take l.device) (s.start l id rest) []
  | happened {l : Lane} {id : Identifier} {e : Entry} {h : Happening} {step : Step} :
    s.lane? l.device = some l → l.hand.command? = some id → s.entryOf? id = some e →
      l.hand.step p e h = some step → Does settings p s (.happen l.device h)
        (s.advance l id step) (step.sent.toList.map .submit)

theorem Lane.take?_eq_some {l l' : Lane} (h : l.take? = some l') :
    ∃ id rest, l.hand = .idle ∧ l.queue = id :: rest ∧ l' = ⟨l.device, rest, .taken id⟩ := by
  unfold Lane.take? at h
  split at h
  · rename_i id rest hh hq
    exact ⟨id, rest, hh, hq, by simpa using h.symm⟩
  · simp at h

theorem Hand.Moves.keeps_entry {p : Retry.Policy} {e : Entry} {hand : Hand} {step : Step}
    (h : hand.Moves p e step) :
    step.entry.record.id = e.record.id ∧ step.entry.record.device = e.record.device ∧
      step.entry.interrupted = e.interrupted := by
  cases h with
  | dispatched ha => exact (Entry.apply_ok ha).2
  | noted ha => exact (Entry.apply_ok ha).2
  | begun => simp
  | _ => exact ⟨rfl, rfl, rfl⟩

theorem Hand.Moves.command? {p : Retry.Policy} {e : Entry} {hand : Hand} {step : Step}
    {id : Identifier} (h : hand.Moves p e step) (hc : hand.command? = some id) :
    step.hand = .idle ∨ step.hand.command? = some id := by
  cases h <;> simp_all [Hand.command?]

theorem Hand.Moves.taken? {p : Retry.Policy} {e : Entry} {hand : Hand} {step : Step}
    (h : hand.Moves p e step) : step.hand.taken? = none := by
  cases h <;> rfl

namespace System

variable {settings : Settings} {p : Retry.Policy} {s t : System} {sent : List Message}

section Accept

variable {record : Command.Record}

theorem entryOf?_accept (hn : s.entryOf? record.id = none) (id : Identifier) :
    (s.accept record).entryOf? id = if id = record.id then some (.new record) else s.entryOf? id :=
  (entryOf?_enqueue id).trans (entryOf?_append rfl hn id)

theorem laneOf_accept (device : String) : (s.accept record).laneOf device =
    if device = record.device then (s.laneOf device).push record.id else s.laneOf device := by
  refine (laneOf_enqueue (s := { s with entries := s.entries ++ [.new record] }) device).trans ?_
  split
  · rename_i hd
    rw [hd]
    rfl
  · rfl

@[simp] theorem hand_accept (device : String) :
    ((s.accept record).laneOf device).hand = (s.laneOf device).hand := by
  rw [laneOf_accept]
  split <;> rfl

theorem queue_accept (device : String) : ((s.accept record).laneOf device).queue =
    (s.laneOf device).queue ++ if device = record.device then [record.id] else [] := by
  rw [laneOf_accept]
  split <;> simp

theorem held_accept (device : String) : ((s.accept record).laneOf device).held =
    (s.laneOf device).held ++ if device = record.device then [record.id] else [] := by
  rw [Lane.held, hand_accept, queue_accept, ← List.append_assoc]
  rfl

end Accept

section Start

variable {l : Lane} {id : Identifier} {rest : List Identifier}

theorem laneOf_start (hl : s.lane? l.device = some l) (device : String) :
    (s.start l id rest).laneOf device =
      if device = l.device then ⟨l.device, rest, .taken id⟩ else s.laneOf device :=
  laneOf_setLane (l := ⟨l.device, rest, .taken id⟩) hl device

theorem held_start (hl : s.lane? l.device = some l) (hh : l.hand = .idle)
    (hq : l.queue = id :: rest) (device : String) :
    ((s.start l id rest).laneOf device).held = (s.laneOf device).held := by
  rw [laneOf_start hl]
  split
  · rename_i hd
    simp [hd, laneOf_of_lane? hl, Lane.held, hh, hq, Hand.command?]
  · rfl

theorem waiting_start (hl : s.lane? l.device = some l) (hh : l.hand = .idle)
    (hq : l.queue = id :: rest) (device : String) :
    ((s.start l id rest).laneOf device).waiting = (s.laneOf device).waiting := by
  rw [laneOf_start hl]
  split
  · rename_i hd
    simp [hd, laneOf_of_lane? hl, Lane.waiting, Hand.taken?, hh, hq]
  · rfl

end Start

section Advance

variable {l : Lane} {id : Identifier} {e : Entry} {step : Step}

theorem entryOf?_advance (he : s.entryOf? id = some e) (hm : l.hand.Moves p e step)
    (id' : Identifier) : (s.advance l id step).entryOf? id' =
      if id' = id then some step.entry else s.entryOf? id' :=
  entryOf?_setEntry_of he (hm.keeps_entry.1.trans (id_of_entryOf? he)) id'

theorem laneOf_advance (hl : s.lane? l.device = some l) (device : String) :
    (s.advance l id step).laneOf device =
      if device = l.device then { l with hand := step.hand } else s.laneOf device :=
  laneOf_setLane (l := { l with hand := step.hand }) (s := s.setEntry id step.entry) hl device

theorem queue_advance (hl : s.lane? l.device = some l) (device : String) :
    ((s.advance l id step).laneOf device).queue = (s.laneOf device).queue := by
  rw [laneOf_advance hl]
  split
  · rename_i hd
    rw [hd, laneOf_of_lane? hl]
  · rfl

theorem held_advance (hl : s.lane? l.device = some l) (hc : l.hand.command? = some id)
    (hm : l.hand.Moves p e step) (device : String) :
    ((s.advance l id step).laneOf device).held = (s.laneOf device).held ∨
      (s.laneOf device).held = id :: ((s.advance l id step).laneOf device).held := by
  rw [laneOf_advance hl]
  split
  · rename_i hd
    rw [hd, laneOf_of_lane? hl]
    rcases hm.command? hc with hi | hi
    · exact Or.inr (by simp [Lane.held, hi, hc])
    · exact Or.inl (by simp [Lane.held, hi, hc])
  · exact Or.inl rfl

theorem held_advance_sublist (hl : s.lane? l.device = some l) (hc : l.hand.command? = some id)
    (hm : l.hand.Moves p e step) (device : String) :
    ((s.advance l id step).laneOf device).held.Sublist (s.laneOf device).held := by
  rcases held_advance hl hc hm device with h | h
  · exact h ▸ List.Sublist.refl _
  · exact h ▸ List.sublist_cons_self _ _

end Advance

theorem submit_eq_ok {id : Identifier} {now : Instant} {submission : Submission}
    {record : Command.Record} (h : s.submit settings id now submission = .ok (t, record)) :
    ∃ order, submission.accept settings = .ok order ∧
      record = .new id now order.device order.action order.parameters order.priority ∧
      t = s.accept record := by
  unfold submit at h
  cases ha : submission.accept settings with
  | error error => simp [ha] at h
  | ok order =>
    simp only [ha, Except.ok.injEq, Prod.mk.injEq] at h
    obtain ⟨rfl, rfl⟩ := h
    exact ⟨order, rfl, rfl, rfl⟩

theorem cancel_eq_ok {id : Identifier} {now : Instant} {e : Entry}
    (h : s.cancel id now = .ok (t, e)) :
    ∃ e₀ e', s.entryOf? id = some e₀ ∧ e₀.apply now .cancel = .ok e' ∧ e = e'.interrupt ∧
      t = s.setEntry id e := by
  unfold cancel at h
  cases he : s.entryOf? id with
  | none => simp [he] at h
  | some e₀ =>
    cases ha : e₀.apply now .cancel with
    | error bad => simp [he, ha] at h
    | ok e' =>
      simp only [he, ha, Except.ok.injEq, Prod.mk.injEq] at h
      obtain ⟨rfl, rfl⟩ := h
      exact ⟨e₀, e', rfl, ha, rfl, rfl⟩

theorem moves_of_cancel {id : Identifier} {now : Instant} {e : Entry}
    (h : s.cancel id now = .ok (t, e)) : s.Moves settings p t [.cancel id] := by
  obtain ⟨e₀, e', he, ha, rfl, rfl⟩ := cancel_eq_ok h
  exact .cancelled he ha

theorem cancel_of_apply {id : Identifier} {now : Instant} {e e' : Entry}
    (he : s.entryOf? id = some e) (ha : e.apply now .cancel = .ok e') :
    s.cancel id now = .ok (s.setEntry id e'.interrupt, e'.interrupt) := by
  simp [cancel, he, ha]

theorem take?_eq_some {device : String} (h : s.take? device = some t) :
    ∃ l id rest, s.lane? l.device = some l ∧ l.device = device ∧ l.hand = .idle ∧
      l.queue = id :: rest ∧ t = s.start l id rest := by
  simp only [take?, Option.bind_eq_some_iff, Option.map_eq_some_iff] at h
  obtain ⟨l, hl, l', hl', rfl⟩ := h
  obtain ⟨id, rest, hh, hq, rfl⟩ := Lane.take?_eq_some hl'
  obtain rfl := device_of_lane? hl
  exact ⟨l, id, rest, hl, rfl, hh, hq, rfl⟩

theorem happen?_eq_some {device : String} {h : Happening} {request : Option Command.Request}
    (hs : s.happen? p device h = some (t, request)) :
    ∃ l id e step, s.lane? l.device = some l ∧ l.device = device ∧ l.hand.command? = some id ∧
      s.entryOf? id = some e ∧ l.hand.step p e h = some step ∧
      t = s.advance l id step ∧ request = step.sent := by
  simp only [happen?, Option.bind_eq_some_iff, Option.map_eq_some_iff, Prod.mk.injEq] at hs
  obtain ⟨l, hl, id, hc, e, he, step, hstep, ht, hr⟩ := hs
  obtain rfl := device_of_lane? hl
  exact ⟨l, id, e, step, hl, rfl, hc, he, hstep, ht.symm, hr.symm⟩

theorem does_of_step {label : Label} (h : s.step settings p label = some (t, sent)) :
    s.Does settings p label t sent := by
  cases label with
  | submit id now submission =>
    cases ha : submission.accept settings with
    | error error =>
      simp only [step, submit, ha, Option.some.injEq, Prod.mk.injEq] at h
      obtain ⟨rfl, rfl⟩ := h
      exact .rejected ha
    | ok order =>
      simp only [step, submit, ha, Option.some.injEq, Prod.mk.injEq] at h
      obtain ⟨rfl, rfl⟩ := h
      exact .submitted ha
  | cancel id now =>
    cases hs : s.cancel id now with
    | error error =>
      simp only [step, hs, Option.some.injEq, Prod.mk.injEq] at h
      obtain ⟨rfl, rfl⟩ := h
      exact .refused hs
    | ok result =>
      obtain ⟨u, cancelled⟩ := result
      simp only [step, hs, Option.some.injEq, Prod.mk.injEq] at h
      obtain ⟨rfl, rfl⟩ := h
      obtain ⟨e, e', he, ha, rfl, rfl⟩ := cancel_eq_ok hs
      exact .cancelled he ha
  | take device =>
    simp only [step, Option.map_eq_some_iff, Prod.mk.injEq] at h
    obtain ⟨u, hu, rfl, rfl⟩ := h
    obtain ⟨l, id, rest, hl, rfl, hh, hq, rfl⟩ := take?_eq_some hu
    exact .taken hl hh hq
  | happen device happening =>
    simp only [step, Option.map_eq_some_iff, Prod.mk.injEq] at h
    obtain ⟨⟨u, request⟩, hu, rfl, rfl⟩ := h
    obtain ⟨l, id, e, st, hl, rfl, hc, he, hstep, rfl, rfl⟩ := happen?_eq_some hu
    exact .happened hl hc he hstep

theorem moves_of_step {label : Label} (hn : s.admits label)
    (h : s.step settings p label = some (t, sent)) : s.Moves settings p t sent := by
  cases does_of_step h with
  | rejected => exact .unchanged
  | submitted ha => exact .submitted ha rfl (Option.isNone_iff_eq_none.mp hn)
  | refused => exact .unchanged
  | cancelled he ha => exact .cancelled he ha
  | taken hl hh hq => exact .taken hl hh hq
  | happened hl hc he hstep => exact .happened hl hc he (Hand.moves_of_step hstep)

end System

/-- A property of the start that every step keeps holds along every run. -/
theorem Run.keeps {settings : Settings} {p : Retry.Policy} {s t : System} {labels : List Label}
    {messages : List Message} (h : Run settings p s labels messages t)
    {P : System → List Message → Prop} (start : P s [])
    (next : ∀ t u before sent, P t before → t.Moves settings p u sent → P u (before ++ sent)) :
    P t messages := by
  induction h with
  | nil => exact start
  | snoc _ hl hs ih => exact next _ _ _ _ ih (System.moves_of_step hl hs)

theorem Run.trans {settings : Settings} {p : Retry.Policy} {s t u : System}
    {labels labels' : List Label} {messages messages' : List Message}
    (h : Run settings p s labels messages t) (h' : Run settings p t labels' messages' u) :
    Run settings p s (labels ++ labels') (messages ++ messages') u := by
  induction h' with
  | nil => simpa only [List.append_nil] using h
  | snoc _ hl hs ih => simpa only [List.append_assoc] using ih.snoc hl hs

theorem run_of_replay {settings : Settings} {p : Retry.Policy} {labels : List Label} :
    ∀ {s t : System} {messages : List Message}, s.replay settings p labels = some (t, messages) →
      Run settings p s labels messages t := by
  induction labels with
  | nil =>
    intro s t messages h
    simp only [System.replay, Option.some.injEq, Prod.mk.injEq] at h
    obtain ⟨rfl, rfl⟩ := h
    exact .nil
  | cons label rest ih =>
    intro s t messages h
    unfold System.replay at h
    split at h
    · rename_i hl
      simp only [Option.bind_eq_some_iff, Option.map_eq_some_iff, Prod.mk.injEq] at h
      obtain ⟨⟨u, sent⟩, hu, ⟨v, more⟩, hv, rfl, rfl⟩ := h
      have hone : Run settings p s [label] sent u := by
        simpa only [List.nil_append] using Run.nil.snoc hl hu
      exact hone.trans (ih hv)
    · cases h

end FleetControl.Dispatch
