import FleetControl.Geo.Fence
import Mathlib.Data.List.Basic

namespace FleetControl

theorem Instant.secondsSince_self (t : Instant) : t.secondsSince t = 0.0 := by
  have hnanos : t.nanosSince t = 0 := by simp [nanosSince]
  rw [secondsSince, hnanos]
  decide +kernel

namespace Geo

/-- From `a` to before `b` it holds all the time, and just before `a` it does not. -/
structure Spell (p : ℕ → Prop) (a b : ℕ) : Prop where
  lt : a < b
  holds : ∀ j, a ≤ j → j < b → p j
  begins : a = 0 ∨ ¬ p (a - 1)

namespace Spell

variable {p : ℕ → Prop} {a a' b b' i : ℕ}

theorem single (h : p i) (hb : i = 0 ∨ ¬ p (i - 1)) : Spell p i (i + 1) where
  lt := Nat.lt_succ_self i
  holds j hj hj' := by
    obtain rfl : j = i := by omega
    exact h
  begins := hb

theorem succ (h : Spell p a b) (hb : p b) : Spell p a (b + 1) where
  lt := Nat.lt_succ_of_lt h.lt
  holds j hj hj' := by
    rcases Nat.lt_succ_iff_lt_or_eq.mp hj' with hlt | rfl
    · exact h.holds j hj hlt
    · exact hb
  begins := h.begins

theorem last (h : Spell p a b) : p (b - 1) := by
  have := h.lt
  exact h.holds (b - 1) (by omega) (by omega)

theorem start_le (h : Spell p a b) (h' : Spell p a' b') (hi : i < b) (hi' : a' ≤ i) : a' ≤ a := by
  by_contra hlt
  rcases h'.begins with rfl | hno
  · omega
  · exact hno (h.holds (a' - 1) (by omega) (by omega))

theorem eq_start (h : Spell p a b) (h' : Spell p a' b') (hi : a ≤ i) (hi' : i < b) (hj : a' ≤ i)
    (hj' : i < b') : a = a' :=
  Nat.le_antisymm (h'.start_le h hj' hi) (h.start_le h' hi' hj)

theorem start_unique (h : Spell p a b) (h' : Spell p a' b) : a = a' := by
  have hlt := h.lt
  have hlt' := h'.lt
  exact h.eq_start (i := b - 1) h' (by omega) (by omega) (by omega) (by omega)

theorem exists_of_mem (h : p i) : ∃ a, Spell p a (i + 1) := by
  induction i with
  | zero => exact ⟨0, single h (Or.inl rfl)⟩
  | succ i ih =>
    by_cases hi : p i
    · obtain ⟨a, ha⟩ := ih hi
      exact ⟨a, ha.succ h⟩
    · exact ⟨i + 1, single h (Or.inr hi)⟩

end Spell

/-- From the sample of index `a` to that of index `i` so many seconds pass. -/
def Lasts (samples : List Sample) (a i : ℕ) (seconds : Float) : Prop :=
  ∃ first last, samples[a]? = some first ∧ samples[i]? = some last ∧
    seconds = last.time.secondsSince first.time

variable {samples rest : List Sample} {s : Sample} {a i : ℕ} {x y : Float}

theorem of_drop_eq_cons (h : samples.drop i = s :: rest) :
    samples[i]? = some s ∧ samples.drop (i + 1) = rest := by
  constructor
  · rw [← List.head?_drop, h, List.head?_cons]
  · rw [← List.drop_drop, h, List.drop_one, List.tail_cons]

theorem Lasts.unique (h : Lasts samples a i x) (h' : Lasts samples a i y) : x = y := by
  obtain ⟨first, last, hf, hl, rfl⟩ := h
  obtain ⟨first', last', hf', hl', rfl⟩ := h'
  rw [Option.some.inj (hf.symm.trans hf'), Option.some.inj (hl.symm.trans hl')]

theorem Lasts.of_same (h : Lasts samples a a x) : x = 0.0 := by
  obtain ⟨first, last, hf, hl, rfl⟩ := h
  rw [Option.some.inj (hl.symm.trans hf), Instant.secondsSince_self]

theorem lasts_same {s : Sample} (h : samples[a]? = some s) : Lasts samples a a 0.0 :=
  ⟨s, s, h, h, (Instant.secondsSince_self s.time).symm⟩

end Geo

end FleetControl
