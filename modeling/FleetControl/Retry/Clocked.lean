import FleetControl.Retry.Policy
import FleetControl.Time.Duration

namespace FleetControl.Retry

structure Clocked where
  maxAttempts : UInt32
  minWait : Duration
  maxWait : Duration
  attemptTimeout : Duration
  overall : Option Duration
deriving DecidableEq

namespace Clocked

def factor (attempt : UInt32) : UInt32 := Word.saturatingPower 2 (Word.saturatingPred attempt)

/-- The wait after an attempt. A product that is no duration stands for the greatest wait. -/
def backoff (p : Clocked) (attempt : UInt32) : Duration :=
  min ((p.minWait.times? (factor attempt)).getD p.maxWait) p.maxWait

def isAccepted (p : Clocked) : Bool :=
  p.maxAttempts ≠ 0 && p.minWait ≤ p.maxWait && !p.attemptTimeout.isZero

end Clocked

namespace Policy

structure Fits (p : Policy) : Prop where
  maxAttempts : p.maxAttempts < UInt32.size
  minWait : p.minWait < UInt64.size
  maxWait : p.maxWait < UInt64.size
  attemptTimeout : p.attemptTimeout < UInt64.size
  overall : ∀ t, p.overall = some t → t < UInt64.size

def clocked (p : Policy) : Clocked where
  maxAttempts := .ofNat p.maxAttempts
  minWait := .ofMillis (.ofNat p.minWait)
  maxWait := .ofMillis (.ofNat p.maxWait)
  attemptTimeout := .ofMillis (.ofNat p.attemptTimeout)
  overall := p.overall.map fun t => .ofMillis (.ofNat t)

end Policy

end FleetControl.Retry
