import FleetControl.Device.Feed

namespace FleetControl.Device

inductive Pipe.Reader where
  | reading
  | sending (p : Telemetry.Payload)
  | stopped

/-- A feed as it runs: a task reads the event stream and puts its messages into a channel of bounded size,
and a consumer takes them out at the other end. -/
structure Pipe where
  source : List Item
  /-- Whether the stream ends after the items it has still to bring. -/
  ends : Bool
  reader : Pipe.Reader
  waiting : List Telemetry.Payload

namespace Pipe

def capacity : Nat := 64

def new (items : List Item) (ends : Bool) : Pipe := ⟨items, ends, .reading, []⟩

def read? (q : Pipe) : Option Pipe :=
  match q.reader with
  | .reading =>
    match q.source with
    | [] => if q.ends then some { q with reader := .stopped } else none
    | item :: rest =>
      match Feed.step item with
      | .message p => some { q with source := rest, reader := .sending p }
      | .passedOver => some { q with source := rest }
      | .ended => some { q with source := rest, reader := .stopped }
  | .sending p =>
    if q.waiting.length < capacity then
      some { q with reader := .reading, waiting := q.waiting ++ [p] }
    else none
  | .stopped => none

def take? (q : Pipe) : Option (Telemetry.Payload × Pipe) :=
  match q.waiting with
  | [] => none
  | p :: rest => some (p, { q with waiting := rest })

def isOver (q : Pipe) : Bool :=
  match q.reader with
  | .stopped => q.waiting.isEmpty
  | _ => false

/-- Whether nothing goes on until the stream does, which it never will. -/
def hangs (q : Pipe) : Bool :=
  match q.reader with
  | .reading => q.source.isEmpty && !q.ends && q.waiting.isEmpty
  | _ => false

inductive Run (q : Pipe) : List Telemetry.Payload → Pipe → Prop where
  | nil : Run q [] q
  | read {got : List Telemetry.Payload} {r t : Pipe} : Run q got r → r.read? = some t → Run q got t
  | take {got : List Telemetry.Payload} {r t : Pipe} {p : Telemetry.Payload} :
    Run q got r → r.take? = some (p, t) → Run q (got ++ [p]) t

/-- A consumer that wants so many messages, and leaves when it has them, when it is told that there are
no more, or at a time limit. -/
inductive Sample (q : Pipe) (count : Nat) : (timedOut : Bool) → List Telemetry.Payload → Prop where
  | full {got : List Telemetry.Payload} {t : Pipe} :
    Run q got t → got.length = count → Sample q count false got
  | ended {got : List Telemetry.Payload} {t : Pipe} :
    Run q got t → got.length < count → t.isOver → Sample q count false got
  | timedOut {got : List Telemetry.Payload} {t : Pipe} :
    Run q got t → got.length ≤ count → Sample q count true got

end Pipe

end FleetControl.Device
