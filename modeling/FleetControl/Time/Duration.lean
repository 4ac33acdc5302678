import FleetControl.Time.Span

namespace FleetControl

namespace Word

def of32? (n : Nat) : Option UInt32 := if n < UInt32.size then some (.ofNat n) else none

def of64? (n : Nat) : Option UInt64 := if n < UInt64.size then some (.ofNat n) else none

/-- A word times a power, each product checked. The base is squared while the exponent is halved. -/
def powerOnto? (total base : UInt32) (exponent : Nat) : Option UInt32 :=
  if exponent ≤ 1 then of32? (total.toNat * base.toNat)
  else if exponent % 2 = 1 then do
    let total ← of32? (total.toNat * base.toNat)
    let base ← of32? (base.toNat * base.toNat)
    powerOnto? total base (exponent / 2)
  else do
    let base ← of32? (base.toNat * base.toNat)
    powerOnto? total base (exponent / 2)
termination_by exponent

def power? (base exponent : UInt32) : Option UInt32 :=
  if exponent = 0 then some 1 else powerOnto? 1 base exponent.toNat

def greatest32 : UInt32 := 4294967295

/-- The power, or the greatest word where the power is none. -/
def saturatingPower (base exponent : UInt32) : UInt32 := (power? base exponent).getD greatest32

def saturatingPred (a : UInt32) : UInt32 := if 1 ≤ a then a - 1 else 0

end Word

structure Duration where
  seconds : UInt64
  nanos : UInt32
  nanos_lt : nanos.toNat < 1000000000
deriving DecidableEq

namespace Duration

def nanoseconds (d : Duration) : Nat := d.seconds.toNat * 1000000000 + d.nanos.toNat

instance : LE Duration where
  le a b := a.seconds < b.seconds ∨ a.seconds = b.seconds ∧ a.nanos ≤ b.nanos

instance : DecidableLE Duration := fun a b =>
  inferInstanceAs (Decidable (a.seconds < b.seconds ∨ a.seconds = b.seconds ∧ a.nanos ≤ b.nanos))

instance : Min Duration where
  min a b := if a ≤ b then a else b

def isZero (d : Duration) : Bool := d.seconds = 0 && d.nanos = 0

/-- The nanoseconds beyond whole seconds, so many times. Two words of 32 bits have their product in one
of 64. -/
def nanosTimes (d : Duration) (k : UInt32) : UInt64 := d.nanos.toUInt64 * k.toUInt64

theorem toNat_carried (n : UInt64) : (n % 1000000000).toUInt32.toNat = n.toNat % 1000000000 := by
  have h : n.toNat % 1000000000 < 1000000000 := Nat.mod_lt _ (by decide)
  rw [UInt64.toNat_toUInt32, UInt64.toNat_mod]
  exact Nat.mod_eq_of_lt (Nat.lt_trans h (by decide))

def times? (d : Duration) (k : UInt32) : Option Duration := do
  let total := d.nanosTimes k
  let seconds ← Word.of64? (d.seconds.toNat * k.toNat)
  let seconds ← Word.of64? (seconds.toNat + (total / 1000000000).toNat)
  some ⟨seconds, (total % 1000000000).toUInt32, toNat_carried total ▸ Nat.mod_lt _ (by decide)⟩

theorem toNat_millis (ms : UInt64) :
    ((ms % 1000).toUInt32 * 1000000).toNat = ms.toNat % 1000 * 1000000 := by
  have h : ms.toNat % 1000 < 1000 := Nat.mod_lt _ (by decide)
  have hword : (ms % 1000).toUInt32.toNat = ms.toNat % 1000 := by
    rw [UInt64.toNat_toUInt32, UInt64.toNat_mod]
    exact Nat.mod_eq_of_lt (Nat.lt_trans h (by decide))
  rw [UInt32.toNat_mul, hword]
  exact Nat.mod_eq_of_lt (Nat.lt_trans (Nat.mul_lt_mul_of_pos_right h (by decide)) (by decide))

def ofMillis (ms : UInt64) : Duration where
  seconds := ms / 1000
  nanos := (ms % 1000).toUInt32 * 1000000
  nanos_lt := by
    rw [toNat_millis]
    exact Nat.mul_lt_mul_of_pos_right (Nat.mod_lt _ (by decide)) (by decide)

end Duration

end FleetControl
