import FleetControl.Dispatch.System
import FleetControl.Rehearsal.Script

namespace FleetControl.Rehearsal

structure Pace where
  deadline : Option Span
  due : Option (Retry.Reply Json)
  /-- When the attempt in flight takes too long, or the wait is over. -/
  limit : Span

namespace Pace

def fresh : Pace := ⟨none, none, 0⟩

/-- The times after something has happened that leaves `hand`; `reply` is the reply to an attempt
that begins. -/
def after (p : Retry.Policy) (now : Span) (hand : Dispatch.Hand) (reply : Option (Retry.Reply Json))
    (pace : Pace) : Dispatch.Happening → Pace
  | .dispatch _ => ⟨p.overall.map (now + ·), none, now⟩
  | .begin =>
    { pace with
      due := reply.map fun r => { r with delay := now + r.delay }
      limit := now + p.attemptTimeout }
  | _ =>
    match hand with
    | .delivering _ (.waiting n) => { pace with due := none, limit := now + p.backoff n }
    | _ => pace

end Pace

inductive Move where
  | take
  | happen (h : Dispatch.Happening)

def stageEnd (now : Span) (pace : Pace) : Dispatch.Stage → Span × Dispatch.Happening
  | .ready _ => (now, .begin)
  | .inFlight _ =>
    match pace.due with
    | some r => if r.delay ≤ pace.limit then (r.delay, .answered r.answer) else (pace.limit, .late)
    | none => (pace.limit, .late)
  | .waiting _ => (pace.limit, .waited)

/-- The next move of a lane and its time; the end of the time for a delivery comes before all else
that happens at that moment. -/
def nextMove (now : Span) (interrupted : Bool) (pace : Pace) (lane : Dispatch.Lane) :
    Option (Span × Move) :=
  match lane.hand with
  | .idle => if lane.queue.isEmpty then none else some (now, .take)
  | .taken _ => some (now, .happen (.dispatch (.ofMillis now)))
  | .settled _ _ => some (now, .happen (.settle (.ofMillis now)))
  | .delivering _ stage =>
    if interrupted then some (now, .happen .interrupted)
    else
      let (time, h) := stageEnd now pace stage
      match pace.deadline with
      | some d =>
        if d ≤ time then some (max now d, .happen .deadline) else some (max now time, .happen h)
      | none => some (max now time, .happen h)

structure Noted where
  time : Span
  /-- The device that the call is about, or the empty name. -/
  device : String
  call : String
  details : List (String × Json)

/-- The clock counts milliseconds and moves only when nothing is left to be done at the moment it shows. -/
structure Stage where
  now : Span
  system : Dispatch.System
  paces : List (String × Pace)
  replies : Replies
  store : StoreReply
  noted : List Noted

namespace Stage

def note (s : Stage) (time : Span) (device call : String) (details : List (String × Json)) : Stage :=
  { s with noted := ⟨time, device, call, details⟩ :: s.noted }

def pace (s : Stage) (device : String) : Pace := (s.paces.lookup device).getD .fresh

def setPace (s : Stage) (device : String) (pace : Pace) : Stage :=
  { s with paces := (device, pace) :: s.paces.filter fun (name, _) => name ≠ device }

def nextOf (s : Stage) (lane : Dispatch.Lane) : Option (Span × Move) :=
  let interrupted := ((lane.hand.command?.bind s.system.entryOf?).map Dispatch.Entry.interrupted).getD false
  nextMove s.now interrupted (s.pace lane.device) lane

def next (s : Stage) : Option (Span × String × Move) :=
  s.system.lanes.foldl (fun best lane =>
    match best, s.nextOf lane with
    | some (t, b), some (time, move) => if time < t then some (time, lane.device, move) else some (t, b)
    | best, none => best
    | none, some (time, move) => some (time, lane.device, move)) none

def move? (p : Retry.Policy) (s : Stage) (device : String) : Move → Option Stage
  | .take => (s.system.take? device).map fun system => { s with system := system }
  | .happen h =>
    (s.system.happen? p device h).map fun (system, sent) =>
      let reply := sent.bind fun request =>
        ((repliesFor device s.replies.submit).head?.getD
          (s.replies.last (.submit request) (.ofEntries [("accepted", .bool true)]))).toAttempt .ok
      let hand := ((system.lane? device).map Dispatch.Lane.hand).getD .idle
      let s := { s with system := system }.setPace device ((s.pace device).after p s.now hand reply h)
      match sent with
      | none => s
      | some request =>
        let replies := { s.replies with submit := dropFor device 1 s.replies.submit }
        { s with replies := replies }.note s.now device "submit" [("body", request.toJson)]

def moveBound (p : Retry.Policy) (s : Stage) : Nat :=
  (s.system.entries.length + 1) * (3 * p.attempts + 8)

/-- The rehearsal after all moves up to a time, or up to the first after which it is done. -/
def runWithin (p : Retry.Policy) (isDone : Stage → Bool) (until? : Option Span) :
    Nat → Stage → Stage
  | 0, s => s
  | fuel + 1, s =>
    if isDone s then s
    else
      match s.next with
      | none => s
      | some (time, device, move) =>
        if until?.any fun t => t < time then s
        else
          match { s with now := time }.move? p device move with
          | none => s
          | some s => runWithin p isDone until? fuel s

def runTo (p : Retry.Policy) (time : Span) (s : Stage) : Stage :=
  let s := s.runWithin p (fun _ => false) (some time) (s.moveBound p)
  { s with now := max s.now time }

def rest (p : Retry.Policy) (s : Stage) : Stage := s.runTo p s.now

def runUntilOver (p : Retry.Policy) (id : Identifier) (s : Stage) : Stage :=
  let isOver (s : Stage) : Bool :=
    ((s.system.entryOf? id).map fun e => e.record.status.isTerminal).getD true
  s.runWithin p isOver none (s.moveBound p)

end Stage

end FleetControl.Rehearsal
