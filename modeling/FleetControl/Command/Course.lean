import FleetControl.Command.Lifecycle

namespace FleetControl.Command

abbrev Writing := ExceptT InvalidTransition (StateM Record)

/-- Writes down an event. The fields are written one by one, the status last, and it is answered. -/
def Record.undergo (now : Instant) (event : Event) : Writing Status := do
  let r ← get
  let next ←
    match r.status.next? event with
    | some status => pure status
    | none => throw ⟨r.status, event.name⟩
  match event with
  | .dispatch => modify fun r => { r with started := some now }
  | .complete result =>
    modify fun r => { r with result := some result }
    modify fun r => { r with completed := some now }
  | .fail failure =>
    modify fun r => { r with error := some failure }
    modify fun r => { r with completed := some now }
  | .cancel => modify fun r => { r with completed := some now }
  modify fun r => { r with status := next }
  return next

def Record.answer (r : Record) (now : Instant) (event : Event) :
    Except InvalidTransition Status × Record :=
  (undergo now event).run.run r

/-- The record after some events, each at its time, and the events that were accepted. -/
def Record.course (r : Record) : List (Instant × Event) → Record × List Event
  | [] => (r, [])
  | (now, event) :: rest =>
    match r.answer now event with
    | (.ok _, r) =>
      let (last, accepted) := r.course rest
      (last, event :: accepted)
    | (.error _, r) => r.course rest

end FleetControl.Command
