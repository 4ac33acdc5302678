import FleetControl.Command.Lifecycle

namespace FleetControl.Dispatch

structure Entry where
  record : Command.Record
  published : Command.Status
  interrupted : Bool
deriving Inhabited

namespace Entry

def new (r : Command.Record) : Entry := ⟨r, r.status, false⟩

def apply (e : Entry) (now : Instant) (event : Command.Event) :
    Except Command.InvalidTransition Entry :=
  (e.record.apply now event).map fun r => { e with record := r, published := r.status }

/-- The entry with the number of the attempt that begins; only an executing command has attempts. -/
def recordAttempt (e : Entry) (attempt : Nat) : Entry :=
  if e.record.status = .executing then { e with record := { e.record with attempts := attempt } }
  else e

def interrupt (e : Entry) : Entry := { e with interrupted := true }

end Entry

end FleetControl.Dispatch
