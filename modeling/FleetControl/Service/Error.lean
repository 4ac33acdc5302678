import FleetControl.Command.Lifecycle
import FleetControl.Query.Compile
import FleetControl.Retry.Policy
import FleetControl.Store.Error

namespace FleetControl.Service

inductive Error where
  | backwards (range : Query.TimeRange)
  | geometry (message : String)
  | refused (reason : Query.Refusal)
  | confirmation (action : Command.Action)
  | transition (e : Command.InvalidTransition)
  | unreachable (attempts : Nat) (lastError : String)
  | commandNotFound (id : Identifier)
  | unknownAction (name : String)
  | notAllowed (action : Command.Action)
  | parameter (message : String)
  | rejected (message : String)
  | cancelled
  | device (e : Device.CallError)
  | store (e : Store.Error)
  | configuration (message : String)
  | malformed (e : Json.ReadError)
deriving DecidableEq

namespace Error

def kind : Error → String
  | .backwards _ => "invalid_range"
  | .geometry _ => "invalid_geometry"
  | .refused _ => "unsafe_query"
  | .confirmation _ => "confirmation_required"
  | .transition _ => "invalid_transition"
  | .unreachable _ _ => "device_unreachable"
  | .commandNotFound _ => "command_not_found"
  | .unknownAction _ => "unknown_action"
  | .notAllowed _ => "action_not_allowed"
  | .parameter _ => "invalid_parameter"
  | .rejected _ => "device_rejected"
  | .cancelled => "cancelled"
  | .device _ => "api"
  | .store _ => "database"
  | .configuration _ => "configuration"
  | .malformed _ => "serialization"

def message : Error → String
  | .backwards r =>
    "Invalid time range: start " ++ r.start.sentence ++ " is after end " ++ r.finish.sentence
  | .geometry m => "Invalid geometry: " ++ m
  | .refused reason => "Unsafe query: " ++ reason.message
  | .confirmation a => "Action '" ++ a.name ++ "' requires explicit confirmation"
  | .transition e => e.message
  | .unreachable n e => "Device unreachable after " ++ toString n ++ " attempts: " ++ e
  | .commandNotFound id => "Command not found: " ++ id.render
  | .unknownAction name => "Unknown action: " ++ name
  | .notAllowed a => "Action '" ++ a.name ++ "' is not allowed"
  | .parameter m => "Invalid parameter: " ++ m
  | .rejected m => "Device rejected request: " ++ m
  | .cancelled => "Operation cancelled"
  | .device e => "Device API error: " ++ e.message
  | .store e => "Database error: " ++ e.message
  | .configuration m => "Configuration error: " ++ m
  | .malformed e => "Serialization error: " ++ e.message

def isRetryable : Error → Bool
  | .unreachable _ _ => true
  | .device e => e.isRetryable
  | .store e => e.isRetryable
  | _ => false

def ofCompile : Query.CompileError → Error
  | .refused reason => .refused reason
  | .backwards range => .backwards range
  | .geometry problem => .geometry problem.message
  | .wrongGeometry kind => .geometry ("geometry does not match query type " ++ kind.title)
  | .noEntity table => .parameter ("table '" ++ table ++ "' cannot be filtered by entity")
  | .orderByGeometry column =>
    .parameter ("cannot order by geometry column '" ++ column ++ "'")
  | .zeroLimit => .parameter "limit must be greater than zero"

def ofRetry : Retry.Failure → Error
  | .exhausted n e => .unreachable n e
  | .terminal _ e => .rejected e
  | .cancelled _ => .cancelled
  | .deadline n => .unreachable n "overall deadline exceeded"

def ofCommand : Command.Failure → Error
  | .unreachable n e => .unreachable n e
  | .rejected m => .rejected m
  | .deadline n => .unreachable n "dispatch deadline exceeded"

def toJson (e : Error) : Json :=
  .ofEntries [("kind", .text e.kind), ("message", .text e.message)]

end Error

end FleetControl.Service
