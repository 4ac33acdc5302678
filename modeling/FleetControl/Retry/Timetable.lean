import FleetControl.Retry.Run

namespace FleetControl.Retry

variable {α : Type}

def Run.begunBefore (time : Span) (r : Run α) : List Begun :=
  r.begun.filter fun b => b.time < time

namespace Policy

/-- The answer to an attempt, unless it takes too long. At the last moment the answer comes first. -/
def inTime (p : Policy) (script : Script α) (n : Nat) : Option (Answer α) :=
  match script n with
  | none => none
  | some r => if r.delay ≤ p.attemptTimeout then some r.answer else none

def taken (p : Policy) (script : Script α) (n : Nat) : Span :=
  match script n with
  | none => p.attemptTimeout
  | some r => min r.delay p.attemptTimeout

def next (p : Policy) (script : Script α) (n : Nat) (now : Span) : Span :=
  now + p.taken script n + p.backoff n

def settles (p : Policy) (script : Script α) (n : Nat) : Bool :=
  match p.inTime script n with
  | some (.value _) | some (.terminal _) => true
  | some (.transient _) | none => false

def failureText (p : Policy) (script : Script α) (n : Nat) : String :=
  match p.inTime script n with
  | some (.transient e) => e
  | _ => p.timeoutText

/-- The request comes down to attempt `k`: no attempt before it settles the request. -/
structure ComesTo (p : Policy) (script : Script α) (k : Nat) : Prop where
  one_le : 1 ≤ k
  le_attempts : k ≤ p.attempts
  before : ∀ i, 1 ≤ i → i < k → p.settles script i = false

/-- Attempt `k` decides a request, and this is the result. -/
inductive Decides (p : Policy) (script : Script α) : Nat → Result α → Prop where
  | value {k : Nat} {a : α} :
    p.ComesTo script k → p.inTime script k = some (.value a) → Decides p script k (.ok ⟨a, k⟩)
  | terminal {k : Nat} {e : String} :
    p.ComesTo script k → p.inTime script k = some (.terminal e) →
      Decides p script k (.error (.terminal k e))
  | exhausted :
    (∀ i, 1 ≤ i → i ≤ p.attempts → p.settles script i = false) →
      Decides p script p.attempts (.error (.exhausted p.attempts (p.failureText script p.attempts)))

def wholeRun (p : Policy) (script : Script α) (start : Span) : Run α :=
  { p with overall := none }.run script start none

def limit (p : Policy) (start : Span) : Option Span := p.overall.map (start + ·)

end Policy

end FleetControl.Retry
