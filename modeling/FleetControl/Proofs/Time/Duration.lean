import FleetControl.Time.Duration
import Mathlib.Algebra.Order.Ring.Nat
import Mathlib.Order.Lattice.Nat

namespace FleetControl

namespace Word

variable {total base r w : UInt32} {e n : ℕ}

theorem of32?_eq_some_iff : of32? n = some w ↔ w.toNat = n := by
  unfold of32?
  split
  case isTrue h => rw [Option.some_inj, ← UInt32.toNat_inj, UInt32.toNat_ofNat_of_lt' h, eq_comm]
  case isFalse h =>
    have hlt := w.toNat_lt_size
    simp only [reduceCtorEq, false_iff]
    omega

theorem of64?_eq_some_iff {w : UInt64} : of64? n = some w ↔ w.toNat = n := by
  unfold of64?
  split
  case isTrue h => rw [Option.some_inj, ← UInt64.toNat_inj, UInt64.toNat_ofNat_of_lt' h, eq_comm]
  case isFalse h =>
    have hlt := w.toNat_lt_size
    simp only [reduceCtorEq, false_iff]
    omega

theorem exists_of32 (h : n ≤ w.toNat) : ∃ v : UInt32, v.toNat = n :=
  ⟨.ofNat n, UInt32.toNat_ofNat_of_lt' (Nat.lt_of_le_of_lt h w.toNat_lt_size)⟩

theorem exists_of64 {w : UInt64} (h : n ≤ w.toNat) : ∃ v : UInt64, v.toNat = n :=
  ⟨.ofNat n, UInt64.toNat_ofNat_of_lt' (Nat.lt_of_le_of_lt h w.toNat_lt_size)⟩

theorem pow_halved (b e : ℕ) : (b * b) ^ (e / 2) * b ^ (e % 2) = b ^ e := by
  rw [← sq, ← pow_mul, ← pow_add, Nat.div_add_mod]

theorem pow_of_odd (b : ℕ) (h : e % 2 = 1) : b ^ e = b * (b * b) ^ (e / 2) := by
  rw [← pow_halved b e, h, pow_one, Nat.mul_comm]

theorem pow_of_even (b : ℕ) (h : e % 2 = 0) : b ^ e = (b * b) ^ (e / 2) := by
  rw [← pow_halved b e, h, pow_zero, Nat.mul_one]

/-- A step of the squaring leaves the words only where the power does, for what it comes to is a factor of
the power. -/
theorem powerOnto?_eq_some_iff (ht : 0 < total.toNat) (hb : 0 < base.toNat) (he : 1 ≤ e) :
    powerOnto? total base e = some r ↔ r.toNat = total.toNat * base.toNat ^ e := by
  induction e using Nat.strongRecOn generalizing total base with
  | ind e ih =>
    rw [powerOnto?]
    split
    case isTrue hle =>
      obtain rfl : e = 1 := by omega
      rw [of32?_eq_some_iff, pow_one]
    case isFalse hlt =>
      have hsquare : 0 < base.toNat * base.toNat := Nat.mul_pos hb hb
      -- The power still to come is no less than the square, which so fits when the power does.
      have hle : base.toNat * base.toNat ≤ (base.toNat * base.toNat) ^ (e / 2) :=
        Nat.le_self_pow (by omega) _
      have hsquared {t : UInt32} (ht : 0 < t.toNat) :
          (∃ b : UInt32, b.toNat = base.toNat * base.toNat ∧ powerOnto? t b (e / 2) = some r) ↔
            r.toNat = t.toNat * (base.toNat * base.toNat) ^ (e / 2) := by
        have hrest {b : UInt32} (hbase : b.toNat = base.toNat * base.toNat) :=
          ih (e / 2) (by omega) ht (hbase ▸ hsquare) (by omega)
        constructor
        · rintro ⟨b, hbase, h⟩
          rw [← hbase]
          exact (hrest hbase).mp h
        · intro h
          obtain ⟨b, hbase⟩ := exists_of32 (h ▸ hle.trans (Nat.le_mul_of_pos_left _ ht))
          rw [← hbase] at h
          exact ⟨b, hbase, (hrest hbase).mpr h⟩
      split
      case isTrue hodd =>
        have htotal : 0 < total.toNat * base.toNat := Nat.mul_pos ht hb
        rw [pow_of_odd _ hodd, ← Nat.mul_assoc]
        simp only [Option.bind_eq_bind, Option.bind_eq_some_iff, of32?_eq_some_iff]
        constructor
        · rintro ⟨t, hteq, h⟩
          rw [← hteq]
          exact (hsquared (hteq ▸ htotal)).mp h
        · intro h
          obtain ⟨t, hteq⟩ := exists_of32 (h ▸ Nat.le_mul_of_pos_right _ (hsquare.trans_le hle))
          rw [← hteq] at h
          exact ⟨t, hteq, (hsquared (hteq ▸ htotal)).mpr h⟩
      case isFalse heven =>
        rw [pow_of_even _ (by omega)]
        simp only [Option.bind_eq_bind, Option.bind_eq_some_iff, of32?_eq_some_iff]
        exact hsquared ht

theorem power?_eq_some_iff {b exponent : UInt32} (hb : 0 < b.toNat) :
    power? b exponent = some r ↔ r.toNat = b.toNat ^ exponent.toNat := by
  unfold power?
  split
  case isTrue h => rw [h, Option.some_inj, ← UInt32.toNat_inj, eq_comm, UInt32.toNat_zero, pow_zero]; rfl
  case isFalse h =>
    have hne : exponent.toNat ≠ 0 := fun h0 => h (UInt32.toNat_inj.mp h0)
    rw [powerOnto?_eq_some_iff (by decide) hb (by omega), UInt32.toNat_one, Nat.one_mul]

theorem toNat_saturatingPower {b exponent : UInt32} (hb : 0 < b.toNat) :
    (saturatingPower b exponent).toNat = min (b.toNat ^ exponent.toNat) (UInt32.size - 1) := by
  unfold saturatingPower
  cases h : power? b exponent with
  | some r =>
    have hr := (power?_eq_some_iff hb).mp h
    have hlt := r.toNat_lt_size
    rw [Option.getD_some, ← hr]
    omega
  | none =>
    have hsize : UInt32.size ≤ b.toNat ^ exponent.toNat := by
      by_contra hlt
      have hr : power? b exponent = some (.ofNat (b.toNat ^ exponent.toNat)) :=
        (power?_eq_some_iff hb).mpr (UInt32.toNat_ofNat_of_lt' (Nat.lt_of_not_le hlt))
      rw [h] at hr
      cases hr
    rw [Option.getD_none, Nat.min_eq_right (by omega)]
    rfl

theorem toNat_saturatingPred (a : UInt32) : (saturatingPred a).toNat = a.toNat - 1 := by
  unfold saturatingPred
  split
  case isTrue h => rw [UInt32.toNat_sub_of_le _ _ h, UInt32.toNat_one]
  case isFalse h =>
    rw [UInt32.le_iff_toNat_le, UInt32.toNat_one] at h
    rw [UInt32.toNat_zero]
    omega

end Word

namespace Duration

variable {a b d e : Duration} {k : UInt32}

theorem le_iff : a ≤ b ↔ a.nanoseconds ≤ b.nanoseconds := by
  have ha := a.nanos_lt
  have hb := b.nanos_lt
  change a.seconds < b.seconds ∨ a.seconds = b.seconds ∧ a.nanos ≤ b.nanos ↔ _
  rw [UInt64.lt_iff_toNat_lt, ← UInt64.toNat_inj, UInt32.le_iff_toNat_le]
  unfold nanoseconds
  omega

theorem nanoseconds_min : (min a b).nanoseconds = min a.nanoseconds b.nanoseconds := by
  change (if a ≤ b then a else b).nanoseconds = _
  split
  case isTrue h => exact (Nat.min_eq_left (le_iff.mp h)).symm
  case isFalse h => exact (Nat.min_eq_right (Nat.le_of_not_le fun hle => h (le_iff.mpr hle))).symm

theorem isZero_iff : d.isZero = true ↔ d.nanoseconds = 0 := by
  unfold isZero nanoseconds
  rw [Bool.and_eq_true, decide_eq_true_iff, decide_eq_true_iff, ← UInt64.toNat_inj, ← UInt32.toNat_inj,
    UInt64.toNat_zero, UInt32.toNat_zero]
  omega

def limit : ℕ := UInt64.size * 1000000000

theorem nanoseconds_lt (d : Duration) : d.nanoseconds < limit := by
  have hs := d.seconds.toNat_lt_size
  have hn := d.nanos_lt
  unfold nanoseconds limit
  omega

theorem toNat_nanosTimes : (d.nanosTimes k).toNat = d.nanos.toNat * k.toNat := by
  have hlt : d.nanos.toNat * k.toNat < UInt64.size :=
    Nat.lt_of_le_of_lt (Nat.mul_le_mul d.nanos_lt.le k.toNat_lt_size.le) (by decide)
  rw [nanosTimes, UInt64.toNat_mul, UInt32.toNat_toUInt64, UInt32.toNat_toUInt64]
  exact Nat.mod_eq_of_lt hlt

theorem nanoseconds_eq_iff {n : ℕ} :
    d.nanoseconds = n ↔ d.seconds.toNat = n / 1000000000 ∧ d.nanos.toNat = n % 1000000000 := by
  have hn := d.nanos_lt
  unfold nanoseconds
  omega

theorem times?_eq_some_iff : d.times? k = some e ↔ e.nanoseconds = d.nanoseconds * k.toNat := by
  have hproduct : d.nanoseconds * k.toNat =
      d.seconds.toNat * k.toNat * 1000000000 + (d.nanosTimes k).toNat := by
    rw [toNat_nanosTimes, nanoseconds, Nat.add_mul, Nat.mul_right_comm]
  have hcarry : (d.nanosTimes k / 1000000000).toNat = (d.nanosTimes k).toNat / 1000000000 :=
    UInt64.toNat_div ..
  have hrest := toNat_carried (d.nanosTimes k)
  rw [nanoseconds_eq_iff, hproduct]
  simp only [times?, Option.bind_eq_bind, Option.bind_eq_some_iff, Word.of64?_eq_some_iff,
    Option.some_inj, hcarry]
  constructor
  · rintro ⟨s, hs, t, ht, rfl⟩
    dsimp only
    omega
  · rintro ⟨hseconds, hnanos⟩
    obtain ⟨s, hs⟩ : ∃ s : UInt64, s.toNat = d.seconds.toNat * k.toNat :=
      Word.exists_of64 (w := e.seconds) (by omega)
    have hnanos' : (d.nanosTimes k % 1000000000).toUInt32 = e.nanos :=
      UInt32.toNat_inj.mp (by omega)
    refine ⟨s, hs, e.seconds, by omega, ?_⟩
    cases e
    exact (Duration.mk.injEq ..).mpr ⟨rfl, hnanos'⟩

theorem exists_nanoseconds {n : ℕ} (h : n < limit) : ∃ d : Duration, d.nanoseconds = n := by
  have hseconds : n / 1000000000 < UInt64.size := Nat.div_lt_of_lt_mul (Nat.mul_comm .. ▸ h)
  have hnanos : n % 1000000000 < 1000000000 := Nat.mod_lt _ (by decide)
  have hword : (UInt32.ofNat (n % 1000000000)).toNat = n % 1000000000 :=
    UInt32.toNat_ofNat_of_lt' (Nat.lt_trans hnanos (by decide))
  exact ⟨⟨.ofNat (n / 1000000000), .ofNat (n % 1000000000), by rw [hword]; exact hnanos⟩,
    nanoseconds_eq_iff.mpr ⟨UInt64.toNat_ofNat_of_lt' hseconds, hword⟩⟩

theorem times?_eq_none_iff : d.times? k = none ↔ limit ≤ d.nanoseconds * k.toNat := by
  constructor
  · intro h
    by_contra hlt
    obtain ⟨e, he⟩ := exists_nanoseconds (Nat.lt_of_not_le hlt)
    rw [times?_eq_some_iff.mpr he] at h
    cases h
  · intro h
    cases ht : d.times? k with
    | none => rfl
    | some e =>
      have he := times?_eq_some_iff.mp ht
      have hlt := e.nanoseconds_lt
      omega

theorem nanoseconds_ofMillis (ms : UInt64) : (ofMillis ms).nanoseconds = ms.toNat * 1000000 := by
  unfold nanoseconds ofMillis
  rw [toNat_millis, UInt64.toNat_div]
  change ms.toNat / 1000 * 1000000000 + _ = _
  omega

theorem nanoseconds_ofMillis_ofNat {ms : ℕ} (h : ms < UInt64.size) :
    (ofMillis (.ofNat ms)).nanoseconds = ms * 1000000 := by
  rw [nanoseconds_ofMillis, UInt64.toNat_ofNat_of_lt' h]

end Duration

end FleetControl
