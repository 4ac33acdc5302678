import FleetControl.Command.Request
import FleetControl.Dispatch.Entry
import FleetControl.Retry.Policy

namespace FleetControl.Dispatch

/-- Where the delivery of a command stands; each stage has the number of an attempt. -/
inductive Stage where
  | ready (attempt : Nat)
  | inFlight (attempt : Nat)
  | waiting (attempt : Nat)
deriving DecidableEq

def Stage.attempt : Stage → Nat
  | .ready n => n
  | .inFlight n => n
  | .waiting n => n

/-- Whether the time for the whole delivery may be over in a stage. An attempt begins at the moment at
which the delivery starts or a wait ends, so before it only a delivery without any time is over. -/
def Stage.mayExpire (p : Retry.Policy) : Stage → Bool
  | .ready _ => p.overall = some 0
  | .inFlight _ | .waiting _ => p.overall.isSome

inductive Hand where
  | idle
  | taken (id : Identifier)
  | delivering (id : Identifier) (stage : Stage)
  | settled (id : Identifier) (event : Command.Event)

def Hand.command? : Hand → Option Identifier
  | .idle => none
  | .taken id => some id
  | .delivering id _ => some id
  | .settled id _ => some id

inductive Happening where
  | dispatch (now : Instant)
  | begin
  | answered (answer : Retry.Answer Json)
  | late
  | waited
  | deadline
  | interrupted
  | settle (now : Instant)

def outcome : Retry.Result Json → Option Command.Event
  | .ok done => some (.complete done.value)
  | .error (.exhausted n e) => some (.fail (.unreachable n e))
  | .error (.terminal _ e) => some (.fail (.rejected e))
  | .error (.deadline n) => some (.fail (.deadline n))
  | .error (.cancelled _) => none

def Hand.ofResult (id : Identifier) (r : Retry.Result Json) : Hand :=
  (outcome r).elim .idle (.settled id)

def Hand.afterAttempt (p : Retry.Policy) (id : Identifier) (n : Nat)
    (answer : Option (Retry.Answer Json)) : Hand :=
  match p.verdict n answer with
  | .settled r => .ofResult id r
  | .failed e =>
    if n < p.attempts then .delivering id (.waiting n) else .ofResult id (.error (.exhausted n e))

/-- What a step leaves: the hand, the entry, and the request sent, if one is. -/
structure Step where
  hand : Hand
  entry : Entry
  sent : Option Command.Request

/-- The step that a happening makes, if it can happen. A raised signal comes before all else that
could happen to a delivery. -/
def Hand.step (p : Retry.Policy) (hand : Hand) (e : Entry) (h : Happening) : Option Step :=
  match hand, h with
  | .taken id, .dispatch now =>
    match e.apply now .dispatch with
    | .ok e => some ⟨.delivering id (.ready 1), e, none⟩
    | .error _ => some ⟨.idle, e, none⟩
  | .settled _ event, .settle now =>
    match e.apply now event with
    | .ok e => some ⟨.idle, e, none⟩
    | .error _ => some ⟨.idle, e, none⟩
  | .delivering _ _, .interrupted => if e.interrupted then some ⟨.idle, e, none⟩ else none
  | .delivering id stage, h =>
    if e.interrupted then none
    else
      match stage, h with
      | .ready n, .begin =>
        some ⟨.delivering id (.inFlight n), e.recordAttempt n, some (.ofRecord e.record)⟩
      | .inFlight n, .answered a => some ⟨.afterAttempt p id n (some a), e, none⟩
      | .inFlight n, .late => some ⟨.afterAttempt p id n none, e, none⟩
      | .waiting n, .waited => some ⟨.delivering id (.ready (n + 1)), e, none⟩
      | stage, .deadline =>
        if stage.mayExpire p then
          some ⟨.ofResult id (.error (.deadline stage.attempt)), e, none⟩
        else none
      | _, _ => none
  | _, _ => none

structure Lane where
  device : String
  queue : List Identifier
  hand : Hand

namespace Lane

def new (device : String) : Lane := ⟨device, [], .idle⟩

def push (l : Lane) (id : Identifier) : Lane := { l with queue := l.queue ++ [id] }

def take? (l : Lane) : Option Lane :=
  match l.hand, l.queue with
  | .idle, id :: rest => some ⟨l.device, rest, .taken id⟩
  | _, _ => none

def isIdle (l : Lane) : Bool := l.queue.isEmpty && l.hand matches .idle

end Lane

end FleetControl.Dispatch
