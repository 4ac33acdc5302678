import FleetControl.Command.Record

namespace FleetControl.Command

inductive Event where
  | dispatch
  | complete (result : Json)
  | fail (failure : Failure)
  | cancel

namespace Event

def name : Event → String
  | .dispatch => "dispatch"
  | .complete _ => "complete"
  | .fail _ => "fail"
  | .cancel => "cancel"

end Event

def Status.next? : Status → Event → Option Status
  | .pending, .dispatch => some .executing
  | .pending, .cancel => some .cancelled
  | .executing, .complete _ => some .completed
  | .executing, .fail _ => some .failed
  | .executing, .cancel => some .cancelled
  | _, _ => none

structure InvalidTransition where
  «from» : Status
  event : String
deriving DecidableEq

def InvalidTransition.message (e : InvalidTransition) : String :=
  "cannot " ++ e.event ++ " a command that is " ++ e.from.name

/-- What an event leaves in a record, apart from the status. -/
def Record.note (r : Record) (now : Instant) : Event → Record
  | .dispatch => { r with started := some now }
  | .complete result => { r with result := some result, completed := some now }
  | .fail failure => { r with error := some failure, completed := some now }
  | .cancel => { r with completed := some now }

def Record.apply (r : Record) (now : Instant) (event : Event) : Except InvalidTransition Record :=
  match r.status.next? event with
  | some status => .ok { r.note now event with status := status }
  | none => .error ⟨r.status, event.name⟩

end FleetControl.Command
