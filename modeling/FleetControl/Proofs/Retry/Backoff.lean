import FleetControl.Proofs.Json.Given
import FleetControl.Proofs.Time.Duration
import FleetControl.Retry.Clocked

namespace FleetControl.Retry

namespace Clocked

variable {p : Clocked} {a b : UInt32}

theorem toNat_factor (a : UInt32) :
    (factor a).toNat = min (2 ^ (a.toNat - 1)) (UInt32.size - 1) := by
  rw [factor, Word.toNat_saturatingPower (by decide), Word.toNat_saturatingPred]
  rfl

theorem toNat_factor_of_le (h : a ≤ 32) : (factor a).toNat = 2 ^ (a.toNat - 1) := by
  have hpow : 2 ^ (a.toNat - 1) ≤ 2 ^ 31 :=
    Nat.pow_le_pow_right (by decide) (Nat.sub_le_sub_right (UInt32.le_iff_toNat_le.mp h) 1)
  rw [toNat_factor]
  exact Nat.min_eq_left (hpow.trans (by decide))

theorem toNat_factor_of_lt (h : 32 < a.toNat) : (factor a).toNat = UInt32.size - 1 := by
  have hpow : 2 ^ 32 ≤ 2 ^ (a.toNat - 1) := Nat.pow_le_pow_right (by decide) (by omega)
  rw [toNat_factor]
  exact Nat.min_eq_right ((by decide : UInt32.size - 1 ≤ 2 ^ 32).trans hpow)

theorem factor_mono (h : a ≤ b) : (factor a).toNat ≤ (factor b).toNat := by
  have hpow : 2 ^ (a.toNat - 1) ≤ 2 ^ (b.toNat - 1) :=
    Nat.pow_le_pow_right (by decide) (Nat.sub_le_sub_right (UInt32.le_iff_toNat_le.mp h) 1)
  rw [toNat_factor, toNat_factor]
  omega

theorem one_le_factor (a : UInt32) : 1 ≤ (factor a).toNat := by
  have hpow : 1 ≤ 2 ^ (a.toNat - 1) := Nat.one_le_two_pow
  rw [toNat_factor]
  exact Nat.le_min.mpr ⟨hpow, by decide⟩

/-- A product that is no duration is greater than the greatest wait, so that the minimum is the same. -/
theorem nanoseconds_backoff (p : Clocked) (a : UInt32) : (p.backoff a).nanoseconds =
    min (p.minWait.nanoseconds * (factor a).toNat) p.maxWait.nanoseconds := by
  rw [backoff, Duration.nanoseconds_min]
  cases h : p.minWait.times? (factor a) with
  | some d => rw [Option.getD_some, Duration.times?_eq_some_iff.mp h]
  | none =>
    have hlimit := Duration.times?_eq_none_iff.mp h
    have hmax := p.maxWait.nanoseconds_lt
    rw [Option.getD_none]
    omega

theorem backoff_le_maxWait (p : Clocked) (a : UInt32) : p.backoff a ≤ p.maxWait := by
  rw [Duration.le_iff, nanoseconds_backoff]
  exact Nat.min_le_right ..

theorem min_le_backoff (p : Clocked) (a : UInt32) : min p.minWait p.maxWait ≤ p.backoff a := by
  have hfactor : p.minWait.nanoseconds ≤ p.minWait.nanoseconds * (factor a).toNat :=
    Nat.le_mul_of_pos_right _ (one_le_factor a)
  rw [Duration.le_iff, Duration.nanoseconds_min, nanoseconds_backoff]
  omega

theorem backoff_mono (p : Clocked) (h : a ≤ b) : p.backoff a ≤ p.backoff b := by
  have hproduct : p.minWait.nanoseconds * (factor a).toNat ≤ p.minWait.nanoseconds * (factor b).toNat :=
    Nat.mul_le_mul_left _ (factor_mono h)
  rw [Duration.le_iff, nanoseconds_backoff, nanoseconds_backoff]
  omega

theorem minWait_le_of_isAccepted (h : p.isAccepted = true) : p.minWait ≤ p.maxWait := by
  simp only [isAccepted, Bool.and_eq_true, decide_eq_true_eq] at h
  exact h.1.2

theorem minWait_le_backoff (h : p.isAccepted = true) : p.minWait ≤ p.backoff a := by
  have hmin := Duration.le_iff.mp (minWait_le_of_isAccepted h)
  have hle := Duration.le_iff.mp (p.min_le_backoff a)
  rw [Duration.nanoseconds_min, Nat.min_eq_left hmin] at hle
  exact Duration.le_iff.mpr hle

theorem backoff_exact (h : a ≤ 32 ∨ p.maxWait.nanoseconds ≤ (2 ^ 32 - 1) * p.minWait.nanoseconds) :
    (p.backoff a).nanoseconds = min (p.minWait.nanoseconds * 2 ^ (a.toNat - 1)) p.maxWait.nanoseconds := by
  rw [nanoseconds_backoff]
  by_cases ha : a ≤ 32
  · rw [toNat_factor_of_le ha]
  · have hlt : 32 < a.toNat := by
      rw [UInt32.le_iff_toNat_le] at ha
      exact Nat.lt_of_not_le ha
    have hlarge : p.maxWait.nanoseconds ≤ p.minWait.nanoseconds * (factor a).toNat := by
      rw [toNat_factor_of_lt hlt, Nat.mul_comm]
      exact h.resolve_left ha
    have hpower : (factor a).toNat ≤ 2 ^ (a.toNat - 1) := by
      rw [toNat_factor]
      exact Nat.min_le_left ..
    rw [Nat.min_eq_right hlarge, Nat.min_eq_right (hlarge.trans (Nat.mul_le_mul_left _ hpower))]

end Clocked

namespace Policy

variable {q : Policy}

theorem factor_eq (a : UInt32) : Policy.factor a.toNat = (Clocked.factor a).toNat := by
  unfold Policy.factor
  split
  case isTrue h => exact (Clocked.toNat_factor_of_le (UInt32.le_iff_toNat_le.mpr h)).symm
  case isFalse h => exact (Clocked.toNat_factor_of_lt (Nat.lt_of_not_le h)).symm

theorem check_ok_iff :
    q.check = .ok () ↔ q.maxAttempts ≠ 0 ∧ q.minWait ≤ q.maxWait ∧ q.attemptTimeout ≠ 0 := by
  unfold check
  split
  case isTrue hattempts => simp [hattempts]
  case isFalse hattempts =>
    split
    case isTrue hwaits => simp [Nat.not_le_of_lt hwaits]
    case isFalse hwaits =>
      split
      case isTrue htimeout => simp [htimeout]
      case isFalse htimeout => simp [hattempts, Nat.le_of_not_lt hwaits, htimeout]

namespace Fits

theorem nanoseconds_minWait (h : q.Fits) : q.clocked.minWait.nanoseconds = q.minWait * 1000000 :=
  Duration.nanoseconds_ofMillis_ofNat h.minWait

theorem nanoseconds_maxWait (h : q.Fits) : q.clocked.maxWait.nanoseconds = q.maxWait * 1000000 :=
  Duration.nanoseconds_ofMillis_ofNat h.maxWait

theorem nanoseconds_backoff (h : q.Fits) (a : UInt32) :
    (q.clocked.backoff a).nanoseconds = q.backoff a.toNat * 1000000 := by
  rw [Clocked.nanoseconds_backoff, h.nanoseconds_minWait, h.nanoseconds_maxWait, Policy.backoff, factor_eq,
    Nat.mul_right_comm, Nat.mul_min_mul_right]

theorem isAccepted_iff (h : q.Fits) : q.clocked.isAccepted = true ↔ q.check = .ok () := by
  have hattempts : q.clocked.maxAttempts = 0 ↔ q.maxAttempts = 0 := by
    rw [← UInt32.toNat_inj, clocked, UInt32.toNat_ofNat_of_lt' h.maxAttempts, UInt32.toNat_zero]
  have hwaits : q.clocked.minWait ≤ q.clocked.maxWait ↔ q.minWait ≤ q.maxWait := by
    rw [Duration.le_iff, h.nanoseconds_minWait, h.nanoseconds_maxWait]
    exact Nat.mul_le_mul_right_iff (by decide)
  have htimeout : q.clocked.attemptTimeout.isZero = true ↔ q.attemptTimeout = 0 := by
    rw [Duration.isZero_iff, clocked, Duration.nanoseconds_ofMillis_ofNat h.attemptTimeout,
      Nat.mul_eq_zero]
    exact or_iff_left (by decide)
  simp only [check_ok_iff, Clocked.isAccepted, Bool.and_eq_true, Bool.not_eq_true', decide_eq_true_eq,
    ne_eq, hattempts, hwaits, ← htimeout, Bool.not_eq_true, and_assoc]

end Fits

theorem given : Policy.reader.Gives fun _ p ↦ p.Fits := by
  have hword : Json.Reader.word.Gives fun _ n ↦ n < UInt32.size := Json.Reader.gives_natBelow _ _
  have hlong : Json.Reader.long.Gives fun _ n ↦ n < UInt64.size := Json.Reader.gives_natBelow _ _
  refine Json.Record.Gives.reader ?_ _
  refine ((((((Json.Record.gives_defaulted hword fun _ ↦ by decide).map _ ?_).seq
    (Json.Record.gives_defaulted hlong fun _ ↦ by decide)).seq
    (Json.Record.gives_defaulted hlong fun _ ↦ by decide)).seq
    (Json.Record.gives_defaulted hlong fun _ ↦ by decide)).seq
    (Json.Record.gives_perhaps (Json.Reader.gives_option hlong) fun _ t ht ↦ by cases ht))
  intro _ attempts hattempts least hleast most hmost time htime overall hoverall
  exact ⟨hattempts, hleast, hmost, htime, hoverall⟩

end Policy

namespace Clocked

/-- The waits lie between the two bounds, grow with the attempts, and are what unbounded numbers make of
them up to attempt 32, or when the greatest wait is no more than the greatest factor times the least.
Of the products only those of the power and of the whole wait may leave the words; both are checked,
and refused just where they do. A policy in milliseconds has the waits of its clocked form. -/
theorem backoff_doubles (p : Clocked) (a : UInt32) :
    p.backoff a ≤ p.maxWait ∧ min p.minWait p.maxWait ≤ p.backoff a ∧
    (p.isAccepted = true → p.minWait ≤ p.backoff a) ∧
    (∀ b, a ≤ b → p.backoff a ≤ p.backoff b) ∧
    (a ≤ 32 ∨ p.maxWait.nanoseconds ≤ (2 ^ 32 - 1) * p.minWait.nanoseconds →
      (p.backoff a).nanoseconds =
        min (p.minWait.nanoseconds * 2 ^ (a.toNat - 1)) p.maxWait.nanoseconds) ∧
    (∀ r, Word.power? 2 (Word.saturatingPred a) = some r ↔ r.toNat = 2 ^ (a.toNat - 1)) ∧
    (factor a).toNat = min (2 ^ (a.toNat - 1)) (2 ^ 32 - 1) ∧
    (p.minWait.nanosTimes (factor a)).toNat = p.minWait.nanos.toNat * (factor a).toNat ∧
    (∀ d, p.minWait.times? (factor a) = some d ↔
      d.nanoseconds = p.minWait.nanoseconds * (factor a).toNat) ∧
    ∀ q : Policy, q.Fits → q.clocked = p →
      (p.backoff a).nanoseconds = q.backoff a.toNat * 1000000 ∧
      (p.isAccepted = true ↔ q.check = .ok ()) := by
  refine ⟨p.backoff_le_maxWait a, p.min_le_backoff a, minWait_le_backoff, fun b => p.backoff_mono,
    backoff_exact, fun r => ?_, toNat_factor a, Duration.toNat_nanosTimes,
    fun d => Duration.times?_eq_some_iff, ?_⟩
  · rw [Word.power?_eq_some_iff (by decide), Word.toNat_saturatingPred]
    rfl
  · rintro q hq rfl
    exact ⟨hq.nanoseconds_backoff a, hq.isAccepted_iff⟩

def brisk : Policy := ⟨50, 1, 10000, 1000, none⟩

/-- After attempt 40 the power is no word any more, and the wait is still that of the power. -/
theorem backoff_doubles_brisk : brisk.Fits ∧ brisk.clocked.isAccepted = true ∧
    Word.power? 2 (Word.saturatingPred 40) = none ∧
    brisk.clocked.minWait ≤ brisk.clocked.backoff 40 ∧
    (brisk.clocked.backoff 40).nanoseconds = min (1000000 * 2 ^ 39) 10000000000 ∧
    (brisk.clocked.backoff 40).nanoseconds = brisk.backoff 40 * 1000000 := by
  have hfits : brisk.Fits := ⟨by decide, by decide, by decide, by decide, fun t ht => by cases ht⟩
  have haccepted : brisk.clocked.isAccepted = true := by decide
  obtain ⟨-, -, hleast, -, hexact, hpower, -, -, -, hclocked⟩ := backoff_doubles brisk.clocked 40
  refine ⟨hfits, haccepted, ?_, hleast haccepted, hexact (.inr (by decide)),
    (hclocked brisk hfits rfl).1⟩
  cases h : Word.power? 2 (Word.saturatingPred 40) with
  | none => rfl
  | some r =>
    have hr := (hpower r).mp h
    have hlt := r.toNat_lt_size
    exact absurd (hr ▸ hlt) (by decide)

end Clocked

end FleetControl.Retry
