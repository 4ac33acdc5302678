import FleetControl.Command.Course
import Mathlib.Data.List.Basic
import Mathlib.Tactic.Common

namespace FleetControl.Command

variable {r fresh : Record} {now : Instant} {event : Event} {status : Status}
  {accepted : List Event}

/-- The field by field writing comes to the record after the event, or to the one before it. -/
theorem Record.answer_eq (r : Record) (now : Instant) (event : Event) :
    r.answer now event =
      match r.apply now event with
      | .ok after => (.ok after.status, after)
      | .error bad => (.error bad, r) := by
  obtain ⟨_, _, _, _, _, status, _, _, _, _, _, _⟩ := r
  cases status <;> cases event <;> rfl

theorem Record.answer_ok (h : r.status.next? event = some status) :
    r.answer now event = (.ok status, { r.note now event with status := status }) := by
  simp only [answer_eq, apply, h]

theorem Record.answer_error (h : r.status.next? event = none) :
    r.answer now event = (.error ⟨r.status, event.name⟩, r) := by
  simp only [answer_eq, apply, h]

inductive Whole : List Event → Prop where
  | withdrawn : Whole [.cancel]
  | completed (result : Json) : Whole [.dispatch, .complete result]
  | failed (failure : Failure) : Whole [.dispatch, .fail failure]
  | interrupted : Whole [.dispatch, .cancel]

theorem whole_iff {events : List Event} :
    Whole events ↔ events = [.cancel] ∨ (∃ result, events = [.dispatch, .complete result]) ∨
      (∃ failure, events = [.dispatch, .fail failure]) ∨ events = [.dispatch, .cancel] := by
  constructor
  · rintro (_ | _ | _ | _) <;> simp
  · rintro (rfl | ⟨_, rfl⟩ | ⟨_, rfl⟩ | rfl) <;> constructor

def Begun (events : List Event) : Prop := ∃ whole, Whole whole ∧ events <+: whole

def Event.target : Event → Status
  | .dispatch => .executing
  | .complete _ => .completed
  | .fail _ => .failed
  | .cancel => .cancelled

def Status.after (events : List Event) : Status :=
  (events.getLast?.map Event.target).getD .pending

theorem begun_iff {events : List Event} :
    Begun events ↔ events = [] ∨ events = [.dispatch] ∨ Whole events := by
  constructor
  · rintro ⟨whole, hw, hp⟩
    obtain ⟨rest, rfl⟩ := hp
    match events with
    | [] => exact Or.inl rfl
    | [first] => cases hw <;> simp [Whole.withdrawn]
    | [first, second] =>
      obtain rfl : rest = [] := by cases hw; all_goals rfl
      exact Or.inr (Or.inr (by simpa using hw))
    | _ :: _ :: _ :: _ => cases hw
  · rintro (rfl | rfl | hw)
    · exact ⟨_, .withdrawn, List.nil_prefix⟩
    · exact ⟨_, .interrupted, by simp⟩
    · exact ⟨events, hw, List.prefix_refl events⟩

theorem target_of_next? {before : Status} (h : before.next? event = some status) :
    status = event.target := by
  cases before <;> cases event <;> cases h <;> rfl

theorem open_of_next? {before : Status} (h : before.next? event = some status) :
    before.isTerminal = false := by
  cases before <;> cases event <;> cases h <;> rfl

theorem next?_after (h : Begun accepted) :
    ((Status.after accepted).next? event).isSome ↔ Begun (accepted ++ [event]) := by
  simp only [begun_iff] at h ⊢
  rcases h with rfl | rfl | hw
  · cases event <;> simp [Status.after, Status.next?, whole_iff]
  · cases event <;> simp [Status.after, Event.target, Status.next?, whole_iff]
  · have hend : (Status.after accepted).next? event = none := by
      cases hw <;> rfl
    cases hw <;> simp [hend, whole_iff]

structure Record.Keeps (fresh r : Record) : Prop where
  id : r.id = fresh.id
  device : r.device = fresh.device
  action : r.action = fresh.action
  parameters : r.parameters = fresh.parameters
  priority : r.priority = fresh.priority
  created : r.created = fresh.created
  attempts : r.attempts = fresh.attempts

/-- The record tells how far along its course a command is. -/
structure Record.Tells (fresh : Record) (accepted : List Event) (r : Record) : Prop where
  begun : Begun accepted
  status : r.status = .after accepted
  started : r.started.isSome ↔ .dispatch ∈ accepted
  completed : r.completed.isSome ↔ r.status.isTerminal
  result : r.result.isSome ↔ r.status = .completed
  result_eq {value : Json} : r.result = some value ↔ .complete value ∈ accepted
  error : r.error.isSome ↔ r.status = .failed
  error_eq {failure : Failure} : r.error = some failure ↔ .fail failure ∈ accepted
  keeps : fresh.Keeps r

namespace Record

theorem tells_new (id : Identifier) (now : Instant) (device : String) (action : Action)
    (parameters : Json.Fields) (priority : ℕ) :
    (new id now device action parameters priority).Tells []
      (new id now device action parameters priority) where
  begun := begun_iff.mpr (Or.inl rfl)
  status := rfl
  started := by simp [new]
  completed := by simp [new, Status.isTerminal]
  result := by simp [new]
  result_eq := by simp [new]
  error := by simp [new]
  error_eq := by simp [new]
  keeps := ⟨rfl, rfl, rfl, rfl, rfl, rfl, rfl⟩

theorem Keeps.note (h : fresh.Keeps r) (now : Instant) (event : Event) (status : Status) :
    fresh.Keeps { r.note now event with status := status } := by
  obtain ⟨h₁, h₂, h₃, h₄, h₅, h₆, h₇⟩ := h
  cases event <;> exact ⟨h₁, h₂, h₃, h₄, h₅, h₆, h₇⟩

theorem Tells.note (h : fresh.Tells accepted r) (hn : r.status.next? event = some status) :
    fresh.Tells (accepted ++ [event]) { r.note now event with status := status } := by
  have hbegun : Begun (accepted ++ [event]) :=
    (next?_after h.begun).mp (by rw [← h.status, hn]; rfl)
  obtain rfl := target_of_next? hn
  have hopen := open_of_next? hn
  -- What is not over has neither an outcome nor a time of its end.
  have hcompleted : r.completed = none := by simpa [hopen] using h.completed
  have hresult : r.result = none := by
    have hne : r.status ≠ .completed := by
      intro hs
      simp [hs, Status.isTerminal] at hopen
    simpa [hne] using h.result
  have herror : r.error = none := by
    have hne : r.status ≠ .failed := by
      intro hs
      simp [hs, Status.isTerminal] at hopen
    simpa [hne] using h.error
  have hvalue (value : Json) : .complete value ∉ accepted := by
    simpa [hresult] using (not_congr h.result_eq).mp (by simp [hresult])
  have hfailure (failure : Failure) : .fail failure ∉ accepted := by
    simpa [herror] using (not_congr h.error_eq).mp (by simp [herror])
  refine ⟨hbegun, by simp [Status.after], ?_, ?_, ?_, ?_, ?_, ?_, h.keeps.note now event _⟩
  · rw [List.mem_append, ← h.started]
    cases event <;> simp [Record.note]
  · cases event <;> simp [Record.note, hcompleted, Event.target, Status.isTerminal]
  · cases event <;> simp [Record.note, hresult, Event.target]
  · cases event <;> simp [Record.note, hresult, hvalue, eq_comm]
  · cases event <;> simp [Record.note, herror, Event.target]
  · cases event <;> simp [Record.note, herror, hfailure, eq_comm]

theorem Tells.course (h : fresh.Tells accepted r) (events : List (Instant × Event)) :
    fresh.Tells (accepted ++ (r.course events).2) (r.course events).1 := by
  induction events generalizing accepted r with
  | nil => simpa [Record.course] using h
  | cons first events ih =>
    obtain ⟨now, event⟩ := first
    rw [Record.course]
    cases hn : r.status.next? event with
    | none =>
      rw [answer_error hn]
      exact ih h
    | some status =>
      rw [answer_ok hn]
      simpa using ih (h.note hn)

/-- Whatever events come to a new record, those it accepts begin a course, its fields tell how far along
it the command is, and a further event is accepted if it goes on with the course. Else it is answered
with the status and its own name, and no field changes. -/
theorem course_of_new (id : Identifier) (created : Instant) (device : String) (action : Action)
    (parameters : Json.Fields) (priority : ℕ) (events : List (Instant × Event)) :
    let fresh := new id created device action parameters priority
    let r := (fresh.course events).1
    let accepted := (fresh.course events).2
    fresh.Tells accepted r ∧
      ∀ now event,
        (Begun (accepted ++ [event]) ∧
          r.answer now event = (.ok event.target, { r.note now event with status := event.target })) ∨
        (¬Begun (accepted ++ [event]) ∧
          r.answer now event = (.error ⟨r.status, event.name⟩, r)) := by
  intro fresh r accepted
  have h : fresh.Tells accepted r := (tells_new id created device action parameters priority).course _
  refine ⟨h, fun now event ↦ ?_⟩
  rw [← next?_after h.begun, ← h.status]
  cases hn : r.status.next? event with
  | none => exact Or.inr ⟨by simp, answer_error hn⟩
  | some status =>
    obtain rfl := target_of_next? hn
    exact Or.inl ⟨rfl, answer_ok hn⟩

end Record

end FleetControl.Command
