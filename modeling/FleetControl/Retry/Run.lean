import FleetControl.Retry.Policy

namespace FleetControl.Retry

structure Reply (α : Type) where
  delay : Span
  answer : Answer α

/-- How the attempts are answered, each by its number; one without a reply is never answered. -/
abbrev Script (α : Type) := Nat → Option (Reply α)

inductive Cut where
  | cancelled
  | deadline
deriving DecidableEq

def Cut.failure (attempt : Nat) : Cut → Failure
  | .cancelled => .cancelled attempt
  | .deadline => .deadline attempt

structure Interruption where
  time : Span
  cut : Cut
deriving DecidableEq

/-- The interruption that comes first; of two at the same moment it is the cancellation. -/
def Interruption.first (cancelled deadline : Option Span) : Option Interruption :=
  match cancelled, deadline with
  | none, none => none
  | some t, none => some ⟨t, .cancelled⟩
  | none, some d => some ⟨d, .deadline⟩
  | some t, some d => if t ≤ d then some ⟨t, .cancelled⟩ else some ⟨d, .deadline⟩

def cutBy (stop : Option Interruption) (time : Span) : Option Interruption :=
  stop.filter fun i => i.time ≤ time

structure Begun where
  attempt : Nat
  time : Span
deriving DecidableEq

structure Run (α : Type) where
  begun : List Begun
  result : Result α
  finish : Span

def Run.ending {α : Type} (result : Result α) (now : Span) : Run α := ⟨[], result, now⟩

def Policy.outcome {α : Type} (p : Policy) : Option (Reply α) → Span × Option (Answer α)
  | none => (p.attemptTimeout, none)
  | some r => if r.delay ≤ p.attemptTimeout then (r.delay, some r.answer) else (p.attemptTimeout, none)

/-- The run from attempt `n` on, which would begin now, with `left` attempts to follow it. -/
def Policy.runFrom {α : Type} (p : Policy) (script : Script α) (stop : Option Interruption) :
    (left : Nat) → (n : Nat) → (now : Span) → Run α
  | left, n, now =>
    match cutBy stop now with
    | some i => .ending (.error (i.cut.failure n)) now
    | none =>
      let (taken, answer) := p.outcome (script n)
      let finish := now + taken
      let rest : Run α :=
        match cutBy stop finish with
        | some i => .ending (.error (i.cut.failure n)) i.time
        | none =>
          match p.verdict n answer, left with
          | .settled result, _ => .ending result finish
          | .failed e, 0 => .ending (.error (.exhausted n e)) finish
          | .failed _, left + 1 =>
            let next := finish + p.backoff n
            match cutBy stop next with
            | some i => .ending (.error (i.cut.failure n)) i.time
            | none => p.runFrom script stop left (n + 1) next
      { rest with begun := ⟨n, now⟩ :: rest.begun }

def Policy.run {α : Type} (p : Policy) (script : Script α) (start : Span) (cancelled : Option Span) :
    Run α :=
  p.runFrom script (Interruption.first cancelled (p.overall.map (start + ·))) (p.attempts - 1) 1 start

end FleetControl.Retry
