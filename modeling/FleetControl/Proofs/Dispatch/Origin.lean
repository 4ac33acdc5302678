import FleetControl.Proofs.Dispatch.Requests

namespace FleetControl.Dispatch

open Command (Action Request)

def Order.request (o : Order) (id : Identifier) : Request :=
  ⟨id, o.device, o.action, o.parameters, o.priority⟩

/-- The rules for submissions, told of a submission and of the order it stands for. -/
structure Submission.Permits (settings : Settings) (s : Submission) (o : Order) : Prop where
  device : o.device = s.device
  action : Action.ofName? s.action = some o.action
  parameters : o.parameters = s.parameters
  priority : o.priority = s.priority.getD 5
  allowed : ∀ actions, settings.allowed = some actions → o.action ∈ actions
  confirmed : o.action ∈ settings.confirmed → s.confirmed = true
  priority_range : 1 ≤ o.priority ∧ o.priority ≤ 10
  device_not_blank : ∃ c ∈ o.device.toList, Text.isBlank c = false
  device_not_dots : o.device ≠ "." ∧ o.device ≠ ".."
  device_no_control : ∀ c ∈ o.device.toList, Text.isControl c = false

variable {settings : Settings} {p : Retry.Policy} {s t : System} {labels : List Label}
  {messages sent : List Message} {id : Identifier}

theorem Settings.allows_iff {action : Action} : settings.allows action = true ↔
    ∀ actions, settings.allowed = some actions → action ∈ actions := by
  cases h : settings.allowed <;> simp [Settings.allows, h]

theorem isDeviceName_of_check {name : String} (h : checkDeviceName name = .ok ()) :
    isDeviceName name = true := by
  unfold checkDeviceName at h
  split at h
  · cases h
  · split at h
    · assumption
    · cases h

theorem Submission.range_of_check {priority : ℕ} (h : checkPriority priority = .ok ()) :
    1 ≤ priority ∧ priority ≤ 10 := by
  unfold checkPriority at h
  split at h
  · rename_i hr
    have hr' : minPriority ≤ priority ∧ priority ≤ maxPriority := by simpa using hr
    exact hr'
  · cases h

theorem Submission.permits_of_accept {submission : Submission} {order : Order}
    (h : submission.accept settings = .ok order) : submission.Permits settings order := by
  unfold accept at h
  cases hn : Action.ofName? submission.action with
  | none => simp [hn] at h
  | some action =>
    cases ha : settings.allows action with
    | false => simp [hn, ha] at h
    | true =>
      cases hp : checkPriority submission.askedPriority with
      | error e => simp [hn, ha, hp] at h
      | ok =>
        cases hd : checkDeviceName submission.device with
        | error e => simp [hn, ha, hp, hd] at h
        | ok =>
          simp only [hn, ha, hp, hd, Bool.not_true, Bool.false_eq_true, if_false] at h
          split at h
          · cases h
          · rename_i hc
            obtain rfl := Except.ok.inj h
            have hname := isDeviceName_of_check hd
            simp only [isDeviceName, Bool.and_eq_true, Bool.not_eq_true', decide_eq_true_eq,
              List.all_eq_false, List.any_eq_false, Bool.not_eq_true] at hname
            obtain ⟨⟨⟨hblank, hdot⟩, hdots⟩, hcontrol⟩ := hname
            refine ⟨rfl, hn, rfl, rfl, Settings.allows_iff.mp ha, ?_, range_of_check hp, hblank,
              ⟨hdot, hdots⟩, hcontrol⟩
            intro hm
            simpa [hm] using hc

theorem Entry.apply_request {e e' : Entry} {now : Instant} {event : Command.Event}
    (h : e.apply now event = .ok e') : Request.ofRecord e'.record = Request.ofRecord e.record := by
  cases hn : e.record.status.next? event with
  | none => simp [Entry.apply, Command.Record.apply, hn, Except.map] at h
  | some status =>
    simp only [Entry.apply, Command.Record.apply, hn, Except.map, Except.ok.injEq] at h
    subst h
    cases event <;> rfl

theorem Entry.recordAttempt_request (e : Entry) (n : ℕ) :
    Request.ofRecord (e.recordAttempt n).record = Request.ofRecord e.record := by
  unfold Entry.recordAttempt
  split <;> rfl

theorem Hand.Moves.keeps_request {e : Entry} {hand : Hand} {step : Step}
    (h : hand.Moves p e step) :
    Request.ofRecord step.entry.record = Request.ofRecord e.record := by
  cases h with
  | dispatched ha => exact Entry.apply_request ha
  | noted ha => exact Entry.apply_request ha
  | begun => exact Entry.recordAttempt_request _ _
  | _ => rfl

theorem Hand.Moves.sent_request {e : Entry} {hand : Hand} {step : Step} {r : Request}
    (h : hand.Moves p e step) (hr : step.sent = some r) : r = .ofRecord e.record := by
  cases h with
  | begun => exact (Option.some.inj hr).symm
  | _ => cases hr

namespace System

def request? (s : System) (id : Identifier) : Option Request :=
  (s.entryOf? id).map fun e ↦ .ofRecord e.record

theorem request?_eq_none : s.request? id = none ↔ s.entryOf? id = none :=
  Option.map_eq_none_iff

theorem request?_accept {record : Command.Record} (hn : s.entryOf? record.id = none)
    (id : Identifier) : (s.accept record).request? id =
      if id = record.id then some (.ofRecord record) else s.request? id := by
  unfold request?
  rw [entryOf?_accept hn]
  split <;> rfl

theorem request?_setEntry {e e' : Entry} (he : s.entryOf? id = some e)
    (hr : Request.ofRecord e'.record = .ofRecord e.record) (id' : Identifier) :
    (s.setEntry id e').request? id' = s.request? id' := by
  have hid : e'.record.id = e.record.id := congrArg Request.command hr
  unfold request?
  rw [entryOf?_setEntry_of he (hid.trans (id_of_entryOf? he))]
  split
  · rename_i hi
    simp [hi, he, hr]
  · rfl

theorem Moves.request {r : Request} (h : s.Moves settings p t sent) (hr : r ∈ requests sent) :
    s.request? r.command = some r := by
  cases h with
  | @happened l id e step hl hc he hm =>
    cases hs : step.sent with
    | none => simp [hs, requests] at hr
    | some r' =>
      have hrr : r = r' := by simpa [hs, requests, Message.request?] using hr
      have hrec : r = .ofRecord e.record := hrr.trans (hm.sent_request hs)
      have hid : r.command = id := (congrArg Request.command hrec).trans (id_of_entryOf? he)
      rw [request?, hid, he, hrec, Option.map_some]
  | _ => simp [requests, Message.request?] at hr

end System

def Label.takesOn (settings : Settings) (id : Identifier) : Label → Bool
  | .submit id' _ submission => id' == id && (submission.accept settings).isOk
  | _ => false

def Submitted (settings : Settings) (labels : List Label) (r : Request) : Prop :=
  ∃ now submission order, .submit r.command now submission ∈ labels ∧
    submission.accept settings = .ok order ∧ r = order.request r.command

theorem Submitted.mono {labels' : List Label} {r : Request} (h : Submitted settings labels r)
    (hsub : labels ⊆ labels') : Submitted settings labels' r := by
  obtain ⟨now, submission, order, hm, ha, hr⟩ := h
  exact ⟨now, submission, order, hsub hm, ha, hr⟩

namespace System

theorem request?_of_takesOn {label : Label} (hl : s.admits label)
    (h : s.step settings p label = some (t, sent)) (ht : label.takesOn settings id = true) :
    s.request? id = none ∧ ∃ r, t.request? id = some r ∧ Submitted settings [label] r := by
  cases does_of_step h with
  | rejected ha => simp [Label.takesOn, ha, Except.isOk, Except.toBool] at ht
  | @submitted id' now submission order ha =>
    simp only [Label.takesOn, Bool.and_eq_true, beq_iff_eq] at ht
    obtain ⟨rfl, -⟩ := ht
    have hn : s.entryOf? id' = none := Option.isNone_iff_eq_none.mp hl
    refine ⟨request?_eq_none.mpr hn, _, (request?_accept hn id').trans (if_pos rfl), ?_⟩
    exact ⟨now, submission, order, List.mem_singleton_self _, ha, rfl⟩
  | _ => cases ht

theorem request?_of_not_takesOn {label : Label} (hl : s.admits label)
    (h : s.step settings p label = some (t, sent)) (ht : label.takesOn settings id = false) :
    t.request? id = s.request? id := by
  cases does_of_step h with
  | rejected => rfl
  | @submitted id' now submission order ha =>
    have hne : id ≠ id' := by
      rintro rfl
      simp [Label.takesOn, ha, Except.isOk, Except.toBool] at ht
    have hn : s.entryOf? id' = none := Option.isNone_iff_eq_none.mp hl
    exact (request?_accept hn id).trans (if_neg hne)
  | refused => rfl
  | @cancelled id' e e' now he ha =>
    have hr := Entry.apply_request ha
    have hr' : Request.ofRecord e'.interrupt.record = .ofRecord e.record := hr
    exact request?_setEntry he hr' id
  | taken => rfl
  | happened _ _ he hstep =>
    exact request?_setEntry he (Hand.moves_of_step hstep).keeps_request id

end System

/-- A command is tracked when exactly one submission was taken on for it, and keeps what that asked
for. -/
theorem Run.request? (h : Run settings p .empty labels messages s) (id : Identifier) :
    labels.countP (Label.takesOn settings id) = (if (s.request? id).isSome then 1 else 0) ∧
      ∀ r, s.request? id = some r → Submitted settings labels r := by
  induction h with
  | nil => exact ⟨rfl, fun r hr ↦ by cases hr⟩
  | @snoc labels messages sent t u label _ hl hs ih =>
    obtain ⟨hcount, hsub⟩ := ih
    rw [List.countP_append, hcount, List.countP_singleton]
    cases ht : label.takesOn settings id with
    | true =>
      obtain ⟨hnone, r, hr, hnew⟩ := System.request?_of_takesOn hl hs ht
      refine ⟨by simp [hnone, hr], fun r' hr' ↦ ?_⟩
      obtain rfl : r = r' := Option.some.inj (hr.symm.trans hr')
      exact hnew.mono (List.subset_append_right _ _)
    | false =>
      rw [System.request?_of_not_takesOn hl hs ht]
      exact ⟨by simp, fun r hr ↦ (hsub r hr).mono (List.subset_append_left _ _)⟩

theorem Run.request?_of_sent (h : Run settings p .empty labels messages s) {r : Request}
    (hr : r ∈ requests messages) : s.request? r.command = some r := by
  induction h with
  | nil => cases hr
  | @snoc labels messages sent t u label _ hl hs ih =>
    have hbefore : t.request? r.command = some r := by
      rw [requests_append, List.mem_append] at hr
      rcases hr with hr | hr
      · exact ih hr
      · exact (System.moves_of_step hl hs).request hr
    cases ht : label.takesOn settings r.command with
    | true =>
      obtain ⟨hnone, -⟩ := System.request?_of_takesOn hl hs ht
      simp [hnone] at hbefore
    | false => rw [System.request?_of_not_takesOn hl hs ht, hbefore]

/-- Every request that was sent repeats a submission, the only one taken on under its identifier. -/
theorem Run.request_submitted (h : Run settings p .empty labels messages s) {r : Request}
    (hr : r ∈ requests messages) :
    labels.countP (Label.takesOn settings r.command) = 1 ∧ Submitted settings labels r := by
  obtain ⟨hcount, hsub⟩ := h.request? r.command
  have htracked := h.request?_of_sent hr
  rw [htracked, Option.isSome_some, if_pos rfl] at hcount
  exact ⟨hcount, hsub r htracked⟩

end FleetControl.Dispatch
