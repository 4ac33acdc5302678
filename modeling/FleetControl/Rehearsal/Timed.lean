import FleetControl.Rehearsal.Deliveries
import FleetControl.Rehearsal.Lanes

namespace FleetControl.Rehearsal

open Dispatch (Hand Label Lane Message System)

def isInterrupted (s : System) (lane : Lane) : Bool :=
  ((lane.hand.command?.bind s.entryOf?).map Dispatch.Entry.interrupted).getD false

def replyTo (script : Deliveries) : Hand → Option (Retry.Reply Json)
  | .delivering id (.ready n) => (script id n).toAttempt .ok
  | _ => none

/-- Whether a label may come at a time, by the clock that callers read and by the pace of its lane. -/
def isDue (s : System) (paces : String → Pace) (time : Span) : Label → Prop
  | .submit _ now _ => now = .ofMillis time
  | .cancel _ now => now = .ofMillis time
  | .take device =>
    let lane := s.laneOf device
    nextMove time (isInterrupted s lane) (paces device) lane = some (time, .take)
  | .happen device h =>
    let lane := s.laneOf device
    nextMove time (isInterrupted s lane) (paces device) lane = some (time, .happen h)

def pacesAfter (p : Retry.Policy) (script : Deliveries) (s t : System) (time : Span)
    (paces : String → Pace) : Label → String → Pace
  | .happen device h => fun device' =>
    if device' = device then
      (paces device).after p time (t.laneOf device).hand (replyTo script (s.laneOf device).hand) h
    else paces device'
  | _ => paces

/-- The dispatcher has come to a state by labels at their times; `now` is the time of the last one. What
happens on a lane does not come before its time: an attempt is answered after the delay that the script
tells or given up at its time limit, and a wait takes as long as the policy says. -/
inductive Timed (settings : Dispatch.Settings) (p : Retry.Policy) (script : Deliveries) :
    List (Span × Label) → List Message → (now : Span) → (String → Pace) → System → Prop where
  | nil : Timed settings p script [] [] 0 (fun _ => .fresh) .empty
  | snoc {labels : List (Span × Label)} {messages sent : List Message} {now time : Span}
      {paces : String → Pace} {s t : System} {label : Label} :
    Timed settings p script labels messages now paces s → now ≤ time → s.admits label →
      isDue s paces time label → s.step settings p label = some (t, sent) →
        Timed settings p script (labels ++ [(time, label)]) (messages ++ sent) time
          (pacesAfter p script s t time paces label) t

end FleetControl.Rehearsal
