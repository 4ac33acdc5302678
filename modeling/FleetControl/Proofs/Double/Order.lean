import Mathlib.Algebra.Order.Ring.Int
import Mathlib.Data.Prod.Lex
import Mathlib.Order.Monotone.Basic
import Mathlib.Tactic.Common

namespace FleetControl.Double

open Float.Model (UnpackedFloat)

/-- A place in the line: the kind of number first, then the exponent, then the mantissa. -/
abbrev Place := ℤ ×ₗ ℤ ×ₗ ℤ

def placeOf? : UnpackedFloat → Option Place
  | .notANumber => none
  | .infinity .negative => some (toLex (-2, toLex (0, 0)))
  | .finite .negative m e _ => some (toLex (-1, toLex (-e, -m)))
  | .zero _ => some (toLex (0, toLex (0, 0)))
  | .finite .positive m e _ => some (toLex (1, toLex (e, m)))
  | .infinity .positive => some (toLex (2, toLex (0, 0)))

theorem compare_natCast (m n : ℕ) : compare (m : ℤ) n = compare m n := by
  rw [← cmp_eq_compare, ← cmp_eq_compare]
  exact Int.natCast_strictMono.cmp_map_eq m n

theorem compare_neg (a b : ℤ) : compare (-a) (-b) = (compare a b).swap := by
  rw [Int.compare_swap, ← cmp_eq_compare, ← cmp_eq_compare]
  have hneg : StrictAnti fun n : ℤ ↦ -n := fun _ _ ↦ Int.neg_lt_neg
  exact hneg.cmp_map_eq a b

/-- Only where both are finite and of one sign does more than the kind decide. -/
theorem compare_eq (a b : UnpackedFloat) :
    a.compare b = (placeOf? a).bind fun p ↦ (placeOf? b).map fun q ↦ compare p q := by
  rcases a with (_ | _) | _ | _ | ⟨(_ | _), m, e, hm⟩ <;>
    rcases b with (_ | _) | _ | _ | ⟨(_ | _), m', e', hm'⟩
  case finite.negative.finite.negative =>
    change some ((compare e e').then (compare m m')).swap =
      some (compare (toLex (-1, toLex (-e, -m)) : Place) (toLex (-1, toLex (-e', -m'))))
    simp [Prod.Lex.compare_def, compareLex, compareOn, compare_neg, compare_natCast,
      Ordering.swap_then]
  case finite.positive.finite.positive =>
    change some ((compare e e').then (compare m m')) =
      some (compare (toLex (1, toLex (e, m)) : Place) (toLex (1, toLex (e', m'))))
    simp [Prod.Lex.compare_def, compareLex, compareOn, compare_natCast]
  all_goals rfl

def place? (x : Float) : Option Place := placeOf? x.toModel.unpack

variable {x y : Float}

theorem compare_eq_some_iff {o : Ordering} :
    x.toModel.unpack.compare y.toModel.unpack = some o ↔
      ∃ p ∈ place? x, ∃ q ∈ place? y, compare p q = o := by
  rw [compare_eq, Option.bind_eq_some_iff]
  simp only [place?, Option.map_eq_some_iff, Option.mem_def]

theorem lt_iff : x < y ↔ ∃ p ∈ place? x, ∃ q ∈ place? y, p < q := by
  have h : x < y ↔ x.toModel.unpack.compare y.toModel.unpack = some .lt := by
    simp [LT.lt, Float.lt, Float.Model.lt, UnpackedFloat.lt]
  simp only [h, compare_eq_some_iff, compare_lt_iff_lt]

theorem le_iff : x ≤ y ↔ ∃ p ∈ place? x, ∃ q ∈ place? y, p ≤ q := by
  have h : x ≤ y ↔ ∃ o, x.toModel.unpack.compare y.toModel.unpack = some o ∧ o.isLE = true := by
    rw [← Option.any_eq_true]
    exact decide_eq_true_iff
  simp only [h, compare_eq_some_iff, Ordering.isLE_iff_ne_gt, Option.mem_def]
  constructor
  · rintro ⟨_, ⟨p, hp, q, hq, rfl⟩, hle⟩
    exact ⟨p, hp, q, hq, compare_le_iff_le.mp hle⟩
  · rintro ⟨p, hp, q, hq, hle⟩
    exact ⟨_, ⟨p, hp, q, hq, rfl⟩, compare_le_iff_le.mpr hle⟩

theorem beq_iff : (x == y) = true ↔ ∃ p ∈ place? x, ∃ q ∈ place? y, p = q := by
  have h : (x == y) = true ↔ x.toModel.unpack.compare y.toModel.unpack = some .eq := by
    change (x.toModel.unpack.compare y.toModel.unpack == some .eq) = true ↔ _
    exact beq_iff_eq
  simp only [h, compare_eq_some_iff, compare_eq_iff_eq]

theorem not_beq_of_lt (h : x < y) : ¬ (x == y) = true := by
  intro heq
  obtain ⟨p, hp, q, hq, hlt⟩ := lt_iff.mp h
  obtain ⟨p', hp', q', hq', rfl⟩ := beq_iff.mp heq
  obtain rfl : p = p' := Option.mem_unique hp hp'
  obtain rfl : q = p := Option.mem_unique hq hq'
  exact lt_irrefl _ hlt

theorem exists_place (h : x.isFinite = true) : ∃ p, place? x = some p := by
  change x.toModel.unpack.isFinite = true at h
  unfold place?
  generalize x.toModel.unpack = u at h
  rcases u with _ | _ | _ | ⟨(_ | _), m, e, hm⟩
  · cases h
  · cases h
  all_goals exact ⟨_, rfl⟩

theorem not_lt_iff (hx : x.isFinite = true) (hy : y.isFinite = true) : ¬ x < y ↔ y ≤ x := by
  obtain ⟨p, hp⟩ := exists_place hx
  obtain ⟨q, hq⟩ := exists_place hy
  simp only [lt_iff, le_iff, hp, hq, Option.mem_some_iff, exists_eq_left', not_lt]

end FleetControl.Double
