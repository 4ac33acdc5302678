import FleetControl.Dispatch.Run
import Mathlib.Data.List.Nodup

namespace FleetControl.Dispatch

instance : Hashable Identifier where
  hash id := hash id.value

/-- The commands in two indexes. A new command is written to the one and then to the other, and a
history is looked up in the second and then in the first. -/
structure Table where
  commands : Std.HashMap Identifier Entry
  byDevice : Std.HashMap String (List Identifier)

namespace Table

def empty : Table := ⟨∅, ∅⟩

def insert (t : Table) (record : Command.Record) : Table :=
  let t := { t with commands := t.commands.insert record.id (.new record) }
  { t with byDevice := t.byDevice.alter record.device fun ids => some (ids.getD [] ++ [record.id]) }

def get? (t : Table) (id : Identifier) : Option Entry := t.commands[id]?

def write (t : Table) (id : Identifier) (e : Entry) : Table :=
  { t with commands := t.commands.modify id fun _ => e }

def idsOf (t : Table) (device : String) : List Identifier := t.byDevice[device]?.getD []

/-- The entries of the last commands of a device, the last one first. An identifier that is not found
is passed over. -/
def forDevice (t : Table) (device : String) (limit : Nat) : List Entry :=
  match t.byDevice[device]? with
  | some ids => (ids.reverse.take limit).filterMap t.get?
  | none => []

def size (t : Table) : Nat := t.commands.size

end Table

/-- The dispatcher with its commands in a table of two indexes. -/
structure Register where
  table : Table
  lanes : List Lane

namespace Register

def empty : Register := ⟨.empty, []⟩

def onLanes (r : Register) : System := ⟨[], r.lanes⟩

def submit (settings : Settings) (r : Register) (id : Identifier) (now : Instant)
    (submission : Submission) : Except Service.Error (Register × Command.Record) :=
  match submission.accept settings with
  | .error e => .error e
  | .ok order =>
    let record := Command.Record.new id now order.device order.action order.parameters order.priority
    .ok (⟨r.table.insert record, (r.onLanes.enqueue order.device id).lanes⟩, record)

def cancel (r : Register) (id : Identifier) (now : Instant) :
    Except Service.Error (Register × Entry) :=
  match r.table.get? id with
  | none => .error (.commandNotFound id)
  | some e =>
    match e.apply now .cancel with
    | .error bad => .error (.transition bad)
    | .ok e => .ok ({ r with table := r.table.write id e.interrupt }, e.interrupt)

def status (r : Register) (id : Identifier) : Except Service.Error Command.Record :=
  match r.table.get? id with
  | none => .error (.commandNotFound id)
  | some e => .ok e.record

def history (settings : Settings) (r : Register) (device : String) (limit : Option Nat) :
    List Command.Record :=
  let limit := min (limit.getD settings.historyLimit) settings.historyLimit
  (r.table.forDevice device limit).map Entry.record

def take? (r : Register) (device : String) : Option Register :=
  (r.onLanes.take? device).map fun s => { r with lanes := s.lanes }

def happen? (p : Retry.Policy) (r : Register) (device : String) (h : Happening) :
    Option (Register × Option Command.Request) :=
  (r.onLanes.lane? device).bind fun lane =>
    lane.hand.command?.bind fun id =>
      (r.table.get? id).bind fun e =>
        (lane.hand.step p e h).map fun step =>
          (⟨r.table.write id step.entry, (r.onLanes.setLane { lane with hand := step.hand }).lanes⟩,
            step.sent)

def step (settings : Settings) (p : Retry.Policy) (r : Register) :
    Label → Option (Register × List Message)
  | .submit id now submission =>
    match r.submit settings id now submission with
    | .ok (r, _) => some (r, [])
    | .error _ => some (r, [])
  | .cancel id now =>
    match r.cancel id now with
    | .ok (r, _) => some (r, [.cancel id])
    | .error _ => some (r, [])
  | .take device => (r.take? device).map fun r => (r, [])
  | .happen device h => (r.happen? p device h).map fun (r, sent) => (r, sent.toList.map .submit)

inductive Run (settings : Settings) (p : Retry.Policy) (r : Register) :
    List Label → List Message → Register → Prop where
  | nil : Run settings p r [] [] r
  | snoc {labels : List Label} {messages sent : List Message} {q u : Register} {label : Label} :
    Run settings p r labels messages q → q.step settings p label = some (u, sent) →
      Run settings p r (labels ++ [label]) (messages ++ sent) u

end Register

end FleetControl.Dispatch
