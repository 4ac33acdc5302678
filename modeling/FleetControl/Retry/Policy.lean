import FleetControl.Device.CallError
import FleetControl.Time.Span

namespace FleetControl.Retry

structure Policy where
  maxAttempts : Nat
  minWait : Span
  maxWait : Span
  attemptTimeout : Span
  /-- The time limit for the whole request, waits included. -/
  overall : Option Span
deriving DecidableEq, Inhabited

namespace Policy

def standard : Policy where
  maxAttempts := 3
  minWait := 500
  maxWait := 10000
  attemptTimeout := 10000
  overall := some 60000

def attempts (p : Policy) : Nat := max p.maxAttempts 1

/-- The factor on the least wait after an attempt: it doubles from one attempt to the next, and stays
in 32 bits. -/
def factor (attempt : Nat) : Nat :=
  if attempt ≤ 32 then Nat.pow 2 (attempt - 1) else UInt32.size - 1

def backoff (p : Policy) (attempt : Nat) : Span :=
  min (p.minWait * factor attempt) p.maxWait

/-- How a policy is read. A time limit for the whole request is there only if it is told. -/
def reader : Json.Reader Policy :=
  (Policy.mk <$> .defaulted "max_attempts" .word standard.maxAttempts
    <*> .defaulted "min_wait" .long standard.minWait
    <*> .defaulted "max_wait" .long standard.maxWait
    <*> .defaulted "attempt_timeout" .long standard.attemptTimeout
    <*> .perhaps "overall_timeout" .long : Json.Record Policy).reader "struct RetryConfig"

inductive Problem where
  | noAttempts
  | waits (least most : Span)
  | noAttemptTime
deriving DecidableEq

def Problem.message : Problem → String
  | .noAttempts => "Retry attempts must be greater than zero"
  | .waits least most =>
    "Minimum retry wait " ++ least.render ++ " exceeds maximum " ++ most.render
  | .noAttemptTime => "Attempt timeout must be greater than zero"

def check (p : Policy) : Except Problem Unit :=
  if p.maxAttempts = 0 then .error .noAttempts
  else if p.maxWait < p.minWait then .error (.waits p.minWait p.maxWait)
  else if p.attemptTimeout = 0 then .error .noAttemptTime
  else .ok ()

end Policy

inductive Answer (α : Type) where
  | value (a : α)
  | transient (message : String)
  | terminal (message : String)
deriving DecidableEq

def Answer.ofCall {α : Type} : Except Device.CallError α → Answer α
  | .ok a => .value a
  | .error e => if e.isRetryable then .transient e.message else .terminal e.message

/-- Why a request failed, with the number of the attempt at which it ended. -/
inductive Failure where
  | exhausted (attempts : Nat) (lastError : String)
  | terminal (attempts : Nat) (error : String)
  | cancelled (attempts : Nat)
  | deadline (attempts : Nat)
deriving DecidableEq

namespace Failure

def attempts : Failure → Nat
  | .exhausted n _ => n
  | .terminal n _ => n
  | .cancelled n => n
  | .deadline n => n

def kind : Failure → String
  | .exhausted _ _ => "exhausted"
  | .terminal _ _ => "terminal"
  | .cancelled _ => "cancelled"
  | .deadline _ => "deadline_exceeded"

def message : Failure → String
  | .exhausted n e => "all " ++ toString n ++ " attempts failed, last error: " ++ e
  | .terminal n e => "attempt " ++ toString n ++ " failed permanently: " ++ e
  | .cancelled n => "cancelled after " ++ toString n ++ " attempts"
  | .deadline n => "overall deadline exceeded after " ++ toString n ++ " attempts"

end Failure

structure Success (α : Type) where
  value : α
  attempts : Nat
deriving DecidableEq

abbrev Result (α : Type) := Except Failure (Success α)

def Policy.timeoutText (p : Policy) : String :=
  "attempt timed out after " ++ p.attemptTimeout.render

inductive Verdict (α : Type) where
  | settled (result : Result α)
  | failed (error : String)

/-- What attempt number `attempt` means, which was answered or was not in time. -/
def Policy.verdict {α : Type} (p : Policy) (attempt : Nat) : Option (Answer α) → Verdict α
  | some (.value a) => .settled (.ok ⟨a, attempt⟩)
  | some (.terminal e) => .settled (.error (.terminal attempt e))
  | some (.transient e) => .failed e
  | none => .failed p.timeoutText

end FleetControl.Retry
