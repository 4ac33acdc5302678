import FleetControl.Dispatch.Run
import FleetControl.Tool.Service

namespace FleetControl.Tool

inductive Turn where
  /-- A caller makes a call; a submission uses the identifier `fresh`. -/
  | call (c : Call) (fresh : Identifier) (now : Instant)
  | take (device : String)
  | happen (device : String) (h : Dispatch.Happening)

/-- What a call sends for commands; the other errands send no such message. -/
def Progress.messages : Progress → List Dispatch.Message
  | .errand (.remoteCancel id) => [.cancel id]
  | _ => []

def Progress.searches : Progress → List Query.Compiled
  | .errand (.search q) => [q]
  | _ => []

namespace Turn

/-- Whether a turn may come: an identifier is given to one command only. -/
def Admitted (s : Dispatch.System) : Turn → Prop
  | .call (.submit _) fresh _ => (s.entryOf? fresh).isNone = true
  | _ => True

def step (setup : Setup) (p : Retry.Policy) (s : Dispatch.System) :
    Turn → Option (Dispatch.System × List Dispatch.Message)
  | .call c fresh now =>
    let (t, progress) := c.start setup s fresh now
    some (t, progress.messages)
  | .take device => (s.take? device).map fun t => (t, [])
  | .happen device h => (s.happen? p device h).map fun (t, sent) => (t, sent.toList.map .submit)

def takesOn (setup : Setup) (id : Identifier) : Turn → Bool
  | .call (.submit submission) fresh _ =>
    fresh == id && (submission.accept setup.dispatcher).isOk
  | _ => false

end Turn

inductive Run (setup : Setup) (p : Retry.Policy) (s : Dispatch.System) :
    List Turn → List Dispatch.Message → Dispatch.System → Prop where
  | nil : Run setup p s [] [] s
  | snoc {turns : List Turn} {messages sent : List Dispatch.Message} {t u : Dispatch.System}
      {turn : Turn} :
    Run setup p s turns messages t → turn.Admitted t → turn.step setup p t = some (u, sent) →
      Run setup p s (turns ++ [turn]) (messages ++ sent) u

end FleetControl.Tool
