import FleetControl.Dispatch.Settings
import FleetControl.Service.Error

namespace FleetControl.Dispatch

structure Submission where
  device : String
  action : String
  parameters : Json.Fields
  priority : Option Nat
  confirmed : Bool

structure Order where
  device : String
  action : Command.Action
  parameters : Json.Fields
  priority : Nat

def minPriority : Nat := 1

def maxPriority : Nat := 10

def defaultPriority : Nat := 5

/-- Whether a device may be told by this name: it is not blank, has no control characters, and is not
one of the two names that stand for a place in a path. -/
def isDeviceName (name : String) : Bool :=
  !name.toList.all Text.isBlank && name ≠ "." && name ≠ ".." && !name.toList.any Text.isControl

def checkDeviceName (name : String) : Except Service.Error Unit :=
  if name.toList.all Text.isBlank then .error (.parameter "device id cannot be empty")
  else if isDeviceName name then .ok ()
  else .error (.parameter ("invalid device id " ++ Text.quoted name))

namespace Submission

def reader : Json.Reader Submission :=
  (Submission.mk <$> .required "device_id" .text <*> .required "action" .text
    <*> .defaulted "parameters" .fields [] <*> .perhaps "priority" .byte
    <*> .defaulted "confirmed" .bool false : Json.Record Submission).reader
    "struct CommandSubmission"

def checkPriority (priority : Nat) : Except Service.Error Unit :=
  if minPriority ≤ priority && priority ≤ maxPriority then .ok ()
  else
    .error (.parameter ("priority must be in [" ++ toString minPriority ++ ", "
      ++ toString maxPriority ++ "], got " ++ toString priority))

def askedPriority (s : Submission) : Nat := s.priority.getD defaultPriority

/-- The order that a submission stands for. The first rule that it breaks gives the error. -/
def accept (settings : Settings) (s : Submission) : Except Service.Error Order :=
  match Command.Action.ofName? s.action with
  | none => .error (.unknownAction s.action)
  | some action =>
    if !settings.allows action then .error (.notAllowed action)
    else
      match checkPriority s.askedPriority, checkDeviceName s.device with
      | .error e, _ => .error e
      | .ok _, .error e => .error e
      | .ok _, .ok _ =>
        if settings.confirmed.contains action && !s.confirmed then .error (.confirmation action)
        else .ok ⟨s.device, action, s.parameters, s.askedPriority⟩

end Submission

end FleetControl.Dispatch
