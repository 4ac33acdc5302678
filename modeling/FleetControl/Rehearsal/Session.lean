import FleetControl.Rehearsal.Lanes
import FleetControl.Tool.Service

namespace FleetControl.Rehearsal

structure Cast where
  setup : Tool.Setup
  policy : Retry.Policy

inductive Step where
  | line (text : String)
  | submit (s : Dispatch.Submission)
  | feed (device : String) (count : Nat)
  | advance (time : Span)
  | wait (number : Nat)
  | watch (number : Nat)
  | health
  | tracked

def Step.ofJson (v : Json) : Except Json.ReadError Step :=
  match v.get? "line", v.get? "submit", v.get? "feed" with
  | some (.text text), _, _ => .ok (.line text)
  | _, some submission, _ => (Json.readValue Dispatch.Submission.reader submission).map .submit
  | _, _, some (.text device) => .ok (.feed device (natAt "take" v))
  | _, _, _ =>
    if (v.get? "advance").isSome then .ok (.advance (natAt "advance" v))
    else if (v.get? "wait").isSome then .ok (.wait (natAt "wait" v))
    else if (v.get? "watch").isSome then .ok (.watch (natAt "watch" v))
    else if (v.get? "health").isSome then .ok .health
    else .ok .tracked

inductive Outcome where
  | response (r : Tool.Response)
  | value (v : Json)
  | failed (e : Service.Error)

def Outcome.ofResult : Except Service.Error Json → Outcome
  | .ok v => .value v
  | .error e => .failed e

def identifierOf (number : Nat) : Identifier := ⟨0x5e551011000040008000000000000000 + number⟩

def numberText (number : Nat) : String := "$" ++ toString number

def withNumbers (text : String) : (count : Nat) → String
  | 0 => text
  | n + 1 => withNumbers (text.replace (identifierOf (n + 1)).render (numberText (n + 1))) n

/-- A text with the identifiers of commands in place of their numbers, higher numbers first. -/
def withIdentifiers (text : String) : (count : Nat) → String
  | 0 => text
  | n + 1 => withIdentifiers (text.replace (numberText (n + 1)) (identifierOf (n + 1)).render) n

structure Feeding where
  messages : List (Span × Telemetry.Payload)
  ends : Option Span

/-- What the feed over the items of a stream brings, the first of which is waited for from `start`
on. -/
def feedFrom (ends : Bool) (start : Span) : List StreamItem → Feeding
  | [] => ⟨[], if ends then some start else none⟩
  | ⟨delay, item⟩ :: rest =>
    let time := start + delay
    match Device.Feed.step item with
    | .message p =>
      let more := feedFrom ends time rest
      { more with messages := (time, p) :: more.messages }
    | .passedOver => feedFrom ends time rest
    | .ended => ⟨[], some time⟩

structure Taken where
  messages : List Telemetry.Payload
  ended : Bool
  finish : Span

/-- What a reader takes who opens a feed at `start`, wants `count` messages and leaves at a time. -/
def Feeding.take (f : Feeding) (start : Span) (count : Nat) (leaves : Option Span) : Taken :=
  let inTime := (f.messages.filter fun (time, _) => leaves.all fun t => time < t).take count
  let last := (inTime.getLast?.map Prod.fst).getD start
  let messages := inTime.map Prod.snd
  if inTime.length = count then ⟨messages, false, last⟩
  else
    match f.ends, leaves with
    | some e, some t => if e < t then ⟨messages, true, e⟩ else ⟨messages, false, t⟩
    | some e, none => ⟨messages, true, e⟩
    | none, some t => ⟨messages, false, t⟩
    | none, none => ⟨messages, false, last⟩

def decoded {α : Type} (r : Json.Reader α) (v : Json) : Except Device.CallError α :=
  (Json.readValue r v).mapError fun e => .decode e.message

namespace Stage

def start (replies : Replies) (store : StoreReply) : Stage := ⟨0, .empty, [], replies, store, []⟩

def count (s : Stage) : Nat := s.system.entries.length

def command (s : Stage) (number : Nat) : Identifier :=
  if 1 ≤ number && number ≤ s.count then identifierOf number else .nil

/-- A call that is tried as the policy says: the session when it is over, its result, and the count of
the replies it used. -/
def request {α : Type} (p : Retry.Policy) (s : Stage) (replies : List CallReply) (otherwise : CallReply)
    (read : Json → Except Device.CallError α) (device call : String)
    (details : List (String × Json)) : Stage × Except Service.Error α × Nat :=
  let script : Retry.Script α := fun n => (replies[n - 1]?.getD otherwise).toAttempt read
  let run := p.run script s.now none
  let s := run.begun.foldl (fun s b => s.note b.time device call details) s
  let result :=
    match run.result with
    | .ok done => .ok done.value
    | .error e => .error (.ofRetry e)
  (s.runTo p run.finish, result, run.begun.length)

def health (p : Retry.Policy) (s : Stage) : Stage × Except Service.Error Json :=
  let (s, result, used) := s.request p s.replies.health
    (s.replies.last .health (.ofEntries [("status", .text "ok")])) .ok "" "health" []
  ({ s with replies := { s.replies with health := s.replies.health.drop used } }, result)

def devices (p : Retry.Policy) (s : Stage) : Stage × Except Service.Error Json :=
  let (s, result, used) := s.request p s.replies.devices (s.replies.last .devices (.list []))
    (decoded (.list Device.reader)) "" "list_devices" []
  ({ s with replies := { s.replies with devices := s.replies.devices.drop used } },
    result.map fun devices => .list (devices.map Device.toJson))

def device (p : Retry.Policy) (s : Stage) (id : String) : Stage × Except Service.Error Json :=
  let (s, result, used) := s.request p (repliesFor id s.replies.device)
    (s.replies.last (.device id) .null)
    (decoded Device.reader) id "get_device" [("device", .text id)]
  ({ s with replies := { s.replies with device := dropFor id used s.replies.device } },
    result.map Device.toJson)

def remoteStatus (p : Retry.Policy) (s : Stage) (id : Identifier) :
    Stage × Except Service.Error Json :=
  let (s, result, used) := s.request p s.replies.status
    (s.replies.last (.command id) (.ofEntries [("id", .text id.render)])) .ok "" "get_command"
    [("command", .text id.render)]
  ({ s with replies := { s.replies with status := s.replies.status.drop used } }, result)

def takeFrom (p : Retry.Policy) (s : Stage) (id : String) (count : Nat) (patience : Option Span) :
    Stage × Except Service.Error Taken :=
  let (s, result, used) := s.request p (repliesFor id s.replies.telemetry)
    (s.replies.last (.telemetry id) (.object [])) (fun v => .ok (Stream.ofJson v)) id "telemetry"
    [("device", .text id)]
  let s := { s with replies := { s.replies with telemetry := dropFor id used s.replies.telemetry } }
  match result with
  | .error e => (s, .error e)
  | .ok stream =>
    let feeding := feedFrom stream.ends s.now stream.items
    let taken := feeding.take s.now count (patience.map (s.now + ·))
    let s := s.runTo p taken.finish
    (s.note s.now id "telemetry_closed" [("device", .text id)], .ok taken)

/-- Withdraws a command from the device service, which may take one attempt's time. -/
def remoteCancel (p : Retry.Policy) (s : Stage) (id : Identifier) : Stage :=
  let device := ((s.system.entryOf? id).map fun e => e.record.device).getD ""
  let reply := s.replies.cancel.head?.getD (s.replies.last (.cancel id) .null)
  let taken := (p.outcome (reply.toAttempt .ok)).1
  let s := s.note s.now device "cancel" [("command", .text id.render)]
  let s := { s with replies := { s.replies with cancel := s.replies.cancel.drop 1 } }
  s.runTo p (s.now + taken)

def search (s : Stage) (q : Query.Compiled) : Stage × Except Service.Error Json :=
  (s.note s.now "" "execute" [("query", q.toJson)],
    match s.store.error with
    | some e => .error (.store e)
    | none =>
      .ok ((⟨q.statement, s.store.micros.toFloat / 1000.0, q.columns, s.store.rows⟩ :
        Query.Result).toJson))

def tableCounts (s : Stage) : Stage × Except Service.Error Json :=
  (s.note s.now "" "table_counts" [],
    match s.store.error with
    | some e => .error (.store e)
    | none => .ok s.store.counts)

def run (p : Retry.Policy) (s : Stage) : Tool.Errand → Stage × Except Service.Error Json
  | .search q => s.search q
  | .tableCounts => s.tableCounts
  | .devices => s.devices p
  | .device id => s.device p id
  | .remoteStatus id => s.remoteStatus p id
  | .remoteCancel id => (s.remoteCancel p id, .ok .null)
  | .sample sampling =>
    let (s, result) :=
      s.takeFrom p sampling.device (Device.sampleSize sampling.maxEvents) (some sampling.timeout)
    (s, result.map fun taken => .list (taken.messages.map Telemetry.Payload.toJson))

def answerLine (cast : Cast) (s : Stage) (line : String) : Stage × Tool.Response :=
  let fresh := identifierOf (s.count + 1)
  let (system, progress) :=
    Tool.startLine cast.setup s.system fresh (.ofMillis s.now) (withIdentifiers line s.count)
  let s := { s with system := system }
  match progress with
  | .answered result => (s, .ofResult result)
  | .errand errand =>
    let (s, reply) := s.run cast.policy errand
    (s, .ofResult (errand.finish s.system reply))

def take (cast : Cast) (s : Stage) : Step → Stage × Outcome
  | .line text =>
    let (s, response) := s.answerLine cast text
    (s, .response response)
  | .submit submission =>
    match s.system.submit cast.setup.dispatcher (identifierOf (s.count + 1)) (.ofMillis s.now)
      submission with
    | .ok (system, record) => ({ s with system := system }, .value record.toJson)
    | .error e => (s, .failed e)
  | .feed device count =>
    match Dispatch.checkDeviceName device with
    | .error e => (s, .failed e)
    | .ok _ =>
      match s.takeFrom cast.policy device count none with
      | (s, .error e) => (s, .failed e)
      | (s, .ok taken) =>
        let items := taken.messages.map Telemetry.Payload.toJson
          ++ if taken.ended then [.text "end"] else []
        (s, .value (.ofEntries [("device_id", .text device), ("items", .list items)]))
  | .advance time => (s.runTo cast.policy (s.now + time), .value .null)
  | .wait number =>
    let id := s.command number
    let s := s.runUntilOver cast.policy id
    (s, .ofResult ((s.system.status id).map Command.Record.toJson))
  | .watch number =>
    (s, .ofResult ((s.system.status (s.command number)).map fun r => .text r.status.name))
  | .health =>
    let (s, result) := s.health cast.policy
    (s, .ofResult result)
  | .tracked => (s, .value (.ofEntries [("tracked", .nat s.count)]))

end Stage

/-- What is reported of a step, when nothing is left to be done at its moment. -/
structure Report where
  outcome : Outcome
  commands : List (Command.Status × Nat)
  calls : List Noted
  now : Span

def inOrder (calls : List Noted) : List Noted :=
  calls.mergeSort fun a b => a.time < b.time || (a.time == b.time && !(b.device < a.device))

def play (cast : Cast) (s : Stage) : List Step → List Report
  | [] => []
  | step :: rest =>
    let (s, outcome) := s.take cast step
    let s := s.rest cast.policy
    let report : Report :=
      { outcome := outcome
        commands := s.system.entries.map fun e => (e.record.status, e.record.attempts)
        calls := inOrder s.noted.reverse
        now := s.now }
    report :: play cast { s with noted := [] } rest

end FleetControl.Rehearsal
