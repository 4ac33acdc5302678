import FleetControl.Dispatch.Lane
import FleetControl.Dispatch.Submission

namespace FleetControl.Dispatch

structure System where
  entries : List Entry
  lanes : List Lane

namespace System

def empty : System := ⟨[], []⟩

def entryOf? (s : System) (id : Identifier) : Option Entry :=
  s.entries.find? fun e => e.record.id == id

def setEntry (s : System) (id : Identifier) (e : Entry) : System :=
  { s with entries := s.entries.map fun e' => if e'.record.id == id then e else e' }

def lane? (s : System) (device : String) : Option Lane :=
  s.lanes.find? fun l => l.device == device

def setLane (s : System) (lane : Lane) : System :=
  { s with lanes := s.lanes.map fun l => if l.device == lane.device then lane else l }

def enqueue (s : System) (device : String) (id : Identifier) : System :=
  match s.lane? device with
  | some lane => s.setLane (lane.push id)
  | none => { s with lanes := s.lanes ++ [(Lane.new device).push id] }

def submit (settings : Settings) (s : System) (id : Identifier) (now : Instant)
    (submission : Submission) : Except Service.Error (System × Command.Record) :=
  match submission.accept settings with
  | .error e => .error e
  | .ok order =>
    let record := Command.Record.new id now order.device order.action order.parameters order.priority
    .ok (({ s with entries := s.entries ++ [.new record] } : System).enqueue order.device id, record)

/-- The dispatcher after a cancellation, and the entry of the command. The change of the record and the
signal that interrupts the delivery are one step here; `Shared.Writes` has other writes between them. -/
def cancel (s : System) (id : Identifier) (now : Instant) :
    Except Service.Error (System × Entry) :=
  match s.entryOf? id with
  | none => .error (.commandNotFound id)
  | some e =>
    match e.apply now .cancel with
    | .error bad => .error (.transition bad)
    | .ok e => .ok (s.setEntry id e.interrupt, e.interrupt)

def status (s : System) (id : Identifier) : Except Service.Error Command.Record :=
  match s.entryOf? id with
  | none => .error (.commandNotFound id)
  | some e => .ok e.record

/-- The records of the commands of a device, the last one first, in a number that is asked for and
that the settings allow. -/
def history (settings : Settings) (s : System) (device : String) (limit : Option Nat) :
    List Command.Record :=
  let records := (s.entries.map Entry.record).filter fun r => r.device == device
  records.reverse.take (min (limit.getD settings.historyLimit) settings.historyLimit)

def take? (s : System) (device : String) : Option System :=
  (s.lane? device).bind fun lane => lane.take?.map s.setLane

def happen? (p : Retry.Policy) (s : System) (device : String) (h : Happening) :
    Option (System × Option Command.Request) :=
  (s.lane? device).bind fun lane =>
    lane.hand.command?.bind fun id =>
      (s.entryOf? id).bind fun e =>
        (lane.hand.step p e h).map fun step =>
          ((s.setEntry id step.entry).setLane { lane with hand := step.hand }, step.sent)

end System

inductive Label where
  | submit (id : Identifier) (now : Instant) (submission : Submission)
  | cancel (id : Identifier) (now : Instant)
  | take (device : String)
  | happen (device : String) (h : Happening)

inductive Message where
  | submit (r : Command.Request)
  | cancel (id : Identifier)

/-- The dispatcher after a label and what it sends, if the label is possible. A submission or a
cancellation that fails is possible and changes nothing. -/
def System.step (settings : Settings) (p : Retry.Policy) (s : System) :
    Label → Option (System × List Message)
  | .submit id now submission =>
    match s.submit settings id now submission with
    | .ok (s, _) => some (s, [])
    | .error _ => some (s, [])
  | .cancel id now =>
    match s.cancel id now with
    | .ok (s, _) => some (s, [.cancel id])
    | .error _ => some (s, [])
  | .take device => (s.take? device).map fun s => (s, [])
  | .happen device h => (s.happen? p device h).map fun (s, sent) => (s, sent.toList.map .submit)

end FleetControl.Dispatch
