import FleetControl.Command.Action

namespace FleetControl.Command

inductive Status where
  | pending
  | executing
  | completed
  | failed
  | cancelled
deriving DecidableEq, Inhabited

namespace Status

def isTerminal : Status → Bool
  | .pending | .executing => false
  | .completed | .failed | .cancelled => true

def name : Status → String
  | .pending => "pending"
  | .executing => "executing"
  | .completed => "completed"
  | .failed => "failed"
  | .cancelled => "cancelled"

def names : List (String × Status) :=
  [Status.pending, .executing, .completed, .failed, .cancelled].map fun s => (s.name, s)

def reader : Json.Reader Status := .variant names

end Status

inductive Failure where
  | unreachable (attempts : Nat) (lastError : String)
  | rejected (message : String)
  | deadline (attempts : Nat)
deriving DecidableEq

namespace Failure

def message : Failure → String
  | .unreachable n e => "device unreachable after " ++ toString n ++ " attempts: " ++ e
  | .rejected m => "device rejected command: " ++ m
  | .deadline n => "dispatch deadline exceeded after " ++ toString n ++ " attempts"

def reader : Json.Reader Failure :=
  .tagged "kind" "CommandFailure"
    [("device_unreachable",
        (Failure.unreachable <$> .required "attempts" .word <*> .required "last_error" .text :
          Json.Record Failure).reader "struct variant CommandFailure::DeviceUnreachable"),
      ("device_rejected",
        (Failure.rejected <$> .required "message" .text : Json.Record Failure).reader
          "struct variant CommandFailure::DeviceRejected"),
      ("deadline_exceeded",
        (Failure.deadline <$> .required "attempts" .word : Json.Record Failure).reader
          "struct variant CommandFailure::DeadlineExceeded")]

def toJson : Failure → Json
  | .unreachable n e =>
    .ofEntries [("kind", .text "device_unreachable"), ("attempts", .nat n), ("last_error", .text e)]
  | .rejected m => .ofEntries [("kind", .text "device_rejected"), ("message", .text m)]
  | .deadline n => .ofEntries [("kind", .text "deadline_exceeded"), ("attempts", .nat n)]

end Failure

structure Record where
  id : Identifier
  device : String
  action : Action
  parameters : Json.Fields
  priority : Nat
  status : Status
  created : Instant
  started : Option Instant
  completed : Option Instant
  /-- The attempts made so far to reach the device. -/
  attempts : Nat
  result : Option Json
  error : Option Failure
deriving Inhabited

namespace Record

def new (id : Identifier) (now : Instant) (device : String) (action : Action)
    (parameters : Json.Fields) (priority : Nat) : Record where
  id := id
  device := device
  action := action
  parameters := parameters
  priority := priority
  status := .pending
  created := now
  started := none
  completed := none
  attempts := 0
  result := none
  error := none

def reader : Json.Reader Record :=
  (Record.mk <$> .required "id" .identifier <*> .required "device_id" .text
    <*> .required "action" Action.reader <*> .required "parameters" .fields
    <*> .required "priority" .byte <*> .required "status" Status.reader
    <*> .required "created_at" .instant <*> .optional "started_at" .instant
    <*> .optional "completed_at" .instant <*> .required "attempts" .word
    <*> .optional "result" .any <*> .optional "error" Failure.reader :
    Json.Record Record).reader "struct DeviceCommand"

def toJson (r : Record) : Json :=
  .ofEntries
    [("id", .text r.id.render), ("device_id", .text r.device), ("action", .text r.action.name),
      ("parameters", .object r.parameters), ("priority", .nat r.priority),
      ("status", .text r.status.name), ("created_at", .text r.created.render),
      ("started_at", Json.option (fun t => .text t.render) r.started),
      ("completed_at", Json.option (fun t => .text t.render) r.completed),
      ("attempts", .nat r.attempts), ("result", r.result.getD .null),
      ("error", Json.option Failure.toJson r.error)]

end Record

end FleetControl.Command
