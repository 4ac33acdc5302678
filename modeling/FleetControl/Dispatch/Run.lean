import FleetControl.Dispatch.System

namespace FleetControl.Dispatch

def Hand.taken? : Hand → Option Identifier
  | .taken id => some id
  | _ => none

def Hand.inDelivery? : Hand → Option Identifier
  | .delivering id _ => some id
  | .settled id _ => some id
  | _ => none

def Hand.inFlight? : Hand → Option Identifier
  | .delivering id (.inFlight _) => some id
  | _ => none

namespace Lane

def waiting (l : Lane) : List Identifier := l.hand.taken?.toList ++ l.queue

def held (l : Lane) : List Identifier := l.hand.command?.toList ++ l.queue

end Lane

namespace System

/-- The lane of a device, which has nothing to do before the first command comes. -/
def laneOf (s : System) (device : String) : Lane := (s.lane? device).getD (.new device)

def accepted (s : System) (device : String) : List Identifier :=
  (s.entries.filter fun e => e.record.device == device).map fun e => e.record.id

def inFlight (s : System) (device : String) : List Identifier :=
  (s.lanes.filterMap fun l => l.hand.inFlight?).filter fun id =>
    (s.entryOf? id).any fun e => e.record.device == device

def isCancelled (s : System) (id : Identifier) : Bool :=
  (s.entryOf? id).any fun e => e.record.status == .cancelled

/-- Whether a label may come: an identifier is given to one command only. -/
def admits (s : System) : Label → Prop
  | .submit id _ _ => (s.entryOf? id).isNone = true
  | _ => True

instance (s : System) (label : Label) : Decidable (s.admits label) :=
  match label with
  | .submit id _ _ => inferInstanceAs (Decidable ((s.entryOf? id).isNone = true))
  | .cancel _ _ | .take _ | .happen _ _ => inferInstanceAs (Decidable True)

end System

def Label.lane? : Label → Option String
  | .take device => some device
  | .happen device _ => some device
  | _ => none

/-- The JSON value that a label brings from outside, if it brings one: the parameters of a submission,
or the body of a reply. -/
def Label.document? : Label → Option Json
  | .submit _ _ submission => some (.object submission.parameters)
  | .happen _ (.answered (.value body)) => some body
  | _ => none

def documents (labels : List Label) : List Json := labels.filterMap Label.document?

def Message.request? : Message → Option Command.Request
  | .submit r => some r
  | .cancel _ => none

def Message.withdrawal? : Message → Option Identifier
  | .submit _ => none
  | .cancel id => some id

def requests (messages : List Message) : List Command.Request :=
  messages.filterMap Message.request?

def sentTo (device : String) (messages : List Message) : List Identifier :=
  ((requests messages).filter fun r => r.device == device).map Command.Request.command

def attempts (id : Identifier) (messages : List Message) : Nat :=
  ((requests messages).map Command.Request.command).count id

def withdrawals (id : Identifier) (messages : List Message) : Nat :=
  (messages.filterMap Message.withdrawal?).count id

/-- The dispatcher goes from one state to another by labels that may come, and sends messages. -/
inductive Run (settings : Settings) (p : Retry.Policy) (s : System) :
    List Label → List Message → System → Prop where
  | nil : Run settings p s [] [] s
  | snoc {labels : List Label} {messages sent : List Message} {t u : System} {label : Label} :
    Run settings p s labels messages t → t.admits label →
      t.step settings p label = some (u, sent) →
        Run settings p s (labels ++ [label]) (messages ++ sent) u

/-- At some moment of a run that ends in `s`, the command was cancelled and no request had named it. -/
def CancelledUntried (settings : Settings) (p : Retry.Policy) (s : System) (labels : List Label)
    (messages : List Message) (id : Identifier) : Prop :=
  ∃ labels₀ messages₀ t labels₁ messages₁,
    Run settings p .empty labels₀ messages₀ t ∧ Run settings p t labels₁ messages₁ s ∧
      labels = labels₀ ++ labels₁ ∧ messages = messages₀ ++ messages₁ ∧
        t.isCancelled id = true ∧ attempts id messages₀ = 0

def System.cancels (s : System) (id : Identifier) : Label → Bool
  | .cancel id' now => id' == id && (s.cancel id now).isOk
  | _ => false

def System.cancellations (settings : Settings) (p : Retry.Policy) (id : Identifier) (s : System) :
    List Label → Nat
  | [] => 0
  | label :: rest =>
    (s.cancels id label).toNat +
      (s.step settings p label).elim 0 fun (t, _) => t.cancellations settings p id rest

def System.replay (settings : Settings) (p : Retry.Policy) (s : System) :
    List Label → Option (System × List Message)
  | [] => some (s, [])
  | label :: rest =>
    if s.admits label then
      (s.step settings p label).bind fun (t, sent) =>
        (t.replay settings p rest).map fun (u, more) => (u, sent ++ more)
    else none

end FleetControl.Dispatch
