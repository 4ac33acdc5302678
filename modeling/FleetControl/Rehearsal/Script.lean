import FleetControl.Device.Client
import FleetControl.Retry.Run
import FleetControl.Store.Error

namespace FleetControl.Rehearsal

def textAt (key : String) (v : Json) : String :=
  match v.get? key with
  | some (.text s) => s
  | _ => ""

def natAt (key : String) (v : Json) : Nat :=
  match v.get? key with
  | some (.number (.int n)) => n.toNat
  | _ => 0

def listAt (key : String) (v : Json) : List Json :=
  match v.get? key with
  | some (.list items) => items
  | _ => []

def holds (key : String) (v : Json) : Bool :=
  match v.get? key with
  | some (.bool b) => b
  | _ => false

def callError (v : Json) : Device.CallError :=
  match textAt "type" v with
  | "timeout" => .timeout
  | "status" => .status (natAt "status" v) (textAt "body" v)
  | "decode" => .decode (textAt "message" v)
  | "too_large" => .stream (.tooLarge (natAt "size" v))
  | "bad_utf8" => .stream .notText
  | "bad_json" =>
    match Json.readText Telemetry.Payload.reader (textAt "text" v) with
    | .error e => .stream (.notPayload e)
    | .ok _ => .stream .notText
  | _ => .transport (textAt "message" v)

def storeError : String → Store.Error
  | "pool_timed_out" => .poolTimedOut
  | "pool_closed" => .poolClosed
  | "io" => .connection "socket gone"
  | "worker_crashed" => .workerCrashed
  | "column_not_found" => .columnNotFound "speed"
  | _ => .rowNotFound

def attemptReply (v : Json) : Option (Retry.Reply Json) :=
  if holds "hang" v then none
  else
    let answer : Retry.Answer Json :=
      match v.get? "transient", v.get? "terminal", v.get? "api" with
      | some (.text e), _, _ => .transient e
      | _, some (.text e), _ => .terminal e
      | _, _, some e => Retry.Answer.ofCall (.error (callError e))
      | _, _, none => .value ((v.get? "ok").getD .null)
    some ⟨natAt "delay_ms" v, answer⟩

/-- The script of a request, told attempt by attempt; the last reply stands for all that follow. -/
def retryScript (outcomes : List Json) : Retry.Script Json := fun n =>
  attemptReply ((outcomes[n - 1]?.or outcomes.getLast?).getD (.object []))

/-- The reply of the device service to one call; without an answer the call hangs. -/
structure CallReply where
  delay : Span
  answer : Option (Except Device.CallError Json)
deriving Inhabited

namespace CallReply

def value (v : Json) : CallReply := ⟨0, some (.ok v)⟩

def ofJson (v : Json) : CallReply :=
  let answer :=
    if holds "hang" v then none
    else
      match v.get? "err" with
      | some e => some (.error (callError e))
      | none => some (.ok ((v.get? "ok").getD .null))
  ⟨natAt "delay_ms" v, answer⟩

def toAttempt {α : Type} (f : Json → Except Device.CallError α) (r : CallReply) :
    Option (Retry.Reply α) :=
  r.answer.map fun answer => ⟨r.delay, Retry.Answer.ofCall (answer.bind f)⟩

end CallReply

/-- The replies of the device service still to come, for each call and, where a call is about a
device, for each device. -/
structure Replies where
  submit : List (String × List CallReply)
  device : List (String × List CallReply)
  telemetry : List (String × List CallReply)
  cancel : List CallReply
  status : List CallReply
  devices : List CallReply
  health : List CallReply
  refusal : Option (Device.ServiceCall → Device.CallError)

def repliesOf (items : List Json) : List CallReply := items.map CallReply.ofJson

def repliesByDevice (v : Option Json) : List (String × List CallReply) :=
  match v with
  | some (.object fields) =>
    fields.map fun (device, replies) =>
      match replies with
      | .list items => (device, repliesOf items)
      | _ => (device, [])
  | _ => []

def Replies.ofJson (v : Json) : Replies where
  submit := repliesByDevice (v.get? "submit")
  device := repliesByDevice (v.get? "get_device")
  telemetry := repliesByDevice (v.get? "telemetry")
  cancel := repliesOf (listAt "cancel" v)
  status := repliesOf (listAt "get_command" v)
  devices := repliesOf (listAt "list_devices" v)
  health := repliesOf (listAt "health" v)
  refusal := none

def Replies.refused (refusal : Device.ServiceCall → Device.CallError) : Replies :=
  ⟨[], [], [], [], [], [], [], some refusal⟩

/-- The reply to a call for which none is left: a plain value, unless calls are refused. -/
def Replies.last (r : Replies) (call : Device.ServiceCall) (plain : Json) : CallReply :=
  match r.refusal with
  | none => .value plain
  | some refusal => ⟨0, some (.error (refusal call))⟩

def repliesFor (device : String) (replies : List (String × List CallReply)) : List CallReply :=
  (replies.lookup device).getD []

def dropFor (device : String) (count : Nat) (replies : List (String × List CallReply)) :
    List (String × List CallReply) :=
  replies.map fun (name, left) => (name, if name == device then left.drop count else left)

structure StreamItem where
  delay : Span
  item : Device.Item

structure Stream where
  items : List StreamItem
  ends : Bool

namespace Stream

def itemOf (v : Json) : StreamItem :=
  let item : Device.Item :=
    match v.get? "err" with
    | some e => .error (callError e)
    | none =>
      match Json.readValue Telemetry.Payload.reader ((v.get? "payload").getD .null) with
      | .ok p => .ok p
      | .error e => .error (.decode e.message)
  ⟨natAt "delay_ms" v, item⟩

def ofJson (v : Json) : Stream :=
  ⟨(listAt "items" v).map itemOf, textAt "then" v ≠ "hang"⟩

end Stream

structure StoreReply where
  error : Option Store.Error
  rows : List Json.Fields
  micros : Nat
  counts : Json

def StoreReply.ofJson (v : Json) : StoreReply where
  error :=
    match v.get? "error" with
    | some (.text name) => some (storeError name)
    | _ => none
  rows := (listAt "rows" v).map fun row =>
    match row with
    | .object fields => fields
    | _ => []
  micros := if (v.get? "duration_us").isSome then natAt "duration_us" v else 1500
  counts := (v.get? "counts").getD (.object [])

end FleetControl.Rehearsal
