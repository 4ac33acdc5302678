import FleetControl.Dispatch.Run
import FleetControl.Rehearsal.Script

namespace FleetControl.Rehearsal

open Dispatch (Hand Happening Label Message System)

/-- The reply to each attempt for each command, the attempts counted from one. -/
abbrev Deliveries := Identifier → Nat → CallReply

namespace CallReply

def ending (p : Retry.Policy) (r : CallReply) : Option (Retry.Answer Json) :=
  (p.outcome (r.toAttempt .ok)).2

/-- What the device service answers in time. An answer at the last moment is in time. -/
def inTime (p : Retry.Policy) (r : CallReply) : Option (Except Device.CallError Json) :=
  r.answer.filter fun _ => r.delay ≤ p.attemptTimeout

/-- Whether a delivery is settled by an attempt: by a body in time, or by an error in time that another
attempt would not mend. -/
def settles (p : Retry.Policy) (r : CallReply) : Bool :=
  match r.inTime p with
  | some (.ok _) => true
  | some (.error e) => !e.isRetryable
  | none => false

def failureText (p : Retry.Policy) (r : CallReply) : String :=
  match r.inTime p with
  | some (.error e) => e.message
  | _ => p.timeoutText

end CallReply

def settledAt? (p : Retry.Policy) (replies : Nat → CallReply) : Option Nat :=
  (List.range' 1 p.attempts).find? fun n => (replies n).settles p

/-- Whether an attempt in flight ends as the script says, if it ends by this. -/
def follows (p : Retry.Policy) (script : Deliveries) : Hand → Happening → Prop
  | .delivering id (.inFlight n), .answered a => (script id n).ending p = some a
  | .delivering id (.inFlight n), .late => (script id n).ending p = none
  | _, _ => True

def admits (p : Retry.Policy) (script : Deliveries) (s : System) (label : Label) : Prop :=
  s.admits label ∧
    match label with
    | .happen device h => follows p script (s.laneOf device).hand h
    | _ => True

/-- The dispatcher goes from one state to another in a way that follows the script. -/
inductive Scripted (settings : Dispatch.Settings) (p : Retry.Policy) (script : Deliveries)
    (s : System) : List Label → List Message → System → Prop where
  | nil : Scripted settings p script s [] [] s
  | snoc {labels : List Label} {messages sent : List Message} {t u : System} {label : Label} :
    Scripted settings p script s labels messages t → admits p script t label →
      t.step settings p label = some (u, sent) →
        Scripted settings p script s (labels ++ [label]) (messages ++ sent) u

end FleetControl.Rehearsal
