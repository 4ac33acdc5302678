import Mathlib.Data.List.Basic
import Mathlib.Tactic.Tauto

namespace FleetControl

variable {ρ ε α β : Type} {broken : ρ → ε → Prop} {rule : ρ} {rules rules' : List ρ} {e : ε}

/-- The error of a rule that is broken while all rules before it are kept. -/
def FirstBroken (broken : ρ → ε → Prop) (rules : List ρ) (e : ε) : Prop :=
  ∃ earlier rule later, rules = earlier ++ rule :: later ∧
    (∀ r ∈ earlier, ∀ e', ¬ broken r e') ∧ broken rule e

theorem firstBroken_nil : ¬ FirstBroken broken [] e := by
  rintro ⟨earlier, rule, later, h, -⟩
  simp at h

theorem exists_split_cons {P : List ρ → ρ → Prop} :
    (∃ earlier r later, rule :: rules = earlier ++ r :: later ∧ P earlier r) ↔
      P [] rule ∨ ∃ earlier r later, rules = earlier ++ r :: later ∧ P (rule :: earlier) r := by
  constructor
  · rintro ⟨earlier, r, later, h, hr⟩
    cases earlier with
    | nil =>
      obtain ⟨rfl, -⟩ := List.cons_eq_cons.mp h
      exact Or.inl hr
    | cons r' earlier =>
      obtain ⟨rfl, rfl⟩ := List.cons_eq_cons.mp h
      exact Or.inr ⟨earlier, r, later, rfl, hr⟩
  · rintro (hr | ⟨earlier, r, later, rfl, hr⟩)
    · exact ⟨[], rule, rules, rfl, hr⟩
    · exact ⟨rule :: earlier, r, later, rfl, hr⟩

theorem firstBroken_cons : FirstBroken broken (rule :: rules) e ↔
    broken rule e ∨ (∀ e', ¬ broken rule e') ∧ FirstBroken broken rules e := by
  unfold FirstBroken
  rw [exists_split_cons]
  refine or_congr (and_iff_right (List.forall_mem_nil _)) ?_
  constructor
  · rintro ⟨earlier, r, later, h, hkept, hr⟩
    obtain ⟨hrule, hearlier⟩ := List.forall_mem_cons.mp hkept
    exact ⟨hrule, earlier, r, later, h, hearlier, hr⟩
  · rintro ⟨hrule, earlier, r, later, h, hearlier, hr⟩
    exact ⟨earlier, r, later, h, List.forall_mem_cons.mpr ⟨hrule, hearlier⟩, hr⟩

theorem firstBroken_singleton : FirstBroken broken [rule] e ↔ broken rule e := by
  simp [firstBroken_cons, firstBroken_nil]

theorem firstBroken_append : FirstBroken broken (rules ++ rules') e ↔
    FirstBroken broken rules e ∨
      (∀ r ∈ rules, ∀ e', ¬ broken r e') ∧ FirstBroken broken rules' e := by
  induction rules with
  | nil => simp [firstBroken_nil]
  | cons rule rules ih =>
    rw [List.cons_append, firstBroken_cons, firstBroken_cons, ih, List.forall_mem_cons]
    tauto

theorem not_firstBroken_iff : (∀ e, ¬ FirstBroken broken rules e) ↔
    ∀ r ∈ rules, ∀ e, ¬ broken r e := by
  induction rules with
  | nil => simp [firstBroken_nil]
  | cons rule rules ih =>
    simp only [firstBroken_cons, not_or, not_and, forall_and, List.forall_mem_cons, ← ih]
    constructor
    · rintro ⟨hrule, hrest⟩
      exact ⟨hrule, fun e ↦ hrest e hrule⟩
    · rintro ⟨hrule, hrest⟩
      exact ⟨hrule, fun e _ ↦ hrest e⟩

theorem FirstBroken.unique {e' : ε} (hone : ∀ r e e', broken r e → broken r e' → e = e')
    (h : FirstBroken broken rules e) (h' : FirstBroken broken rules e') : e = e' := by
  induction rules with
  | nil => exact absurd h firstBroken_nil
  | cons rule rules ih =>
    rw [firstBroken_cons] at h h'
    rcases h with hr | ⟨hkept, h⟩
    · rcases h' with hr' | ⟨hkept, -⟩
      · exact hone rule e e' hr hr'
      · exact absurd hr (hkept e)
    · rcases h' with hr' | ⟨-, h'⟩
      · exact absurd hr' (hkept e')
      · exact ih h h'

/-- A computation fails with the error of the first broken rule, and with no other. -/
def Judges (broken : ρ → ε → Prop) (rules : List ρ) (x : Except ε α) : Prop :=
  ∀ e, x = .error e ↔ FirstBroken broken rules e

theorem judges_ok (a : α) : Judges broken [] (.ok a : Except ε α) := by
  intro e
  simp [firstBroken_nil]

theorem judges_rule {x : Except ε α} (h : ∀ e, x = .error e ↔ broken rule e) :
    Judges broken [rule] x := by
  intro e
  rw [firstBroken_singleton, h e]

theorem judges_error (h : broken rule e) (hone : ∀ e', broken rule e' → e' = e) :
    Judges broken (rule :: rules) (.error e : Except ε α) := by
  intro e'
  rw [Except.error.injEq, firstBroken_cons, or_iff_left (fun hlater ↦ hlater.1 e h)]
  constructor
  · rintro rfl
    exact h
  · exact fun h' ↦ (hone e' h').symm

namespace Judges

variable {x : Except ε α}

theorem cons (hrule : ∀ e, ¬ broken rule e) (h : Judges broken rules x) :
    Judges broken (rule :: rules) x := by
  intro e
  rw [h e, firstBroken_cons, or_iff_right (hrule e), and_iff_right hrule]

theorem kept_of_ok (h : Judges broken rules x) {a : α} (hx : x = .ok a) :
    ∀ r ∈ rules, ∀ e, ¬ broken r e :=
  not_firstBroken_iff.mp fun e he ↦ by
    have := (h e).mpr he
    rw [hx] at this
    cases this

variable {kept : ρ → Prop}

theorem ok_iff (h : Judges broken rules x) (hkept : ∀ r, kept r ↔ ∀ e, ¬ broken r e) :
    (∃ a, x = .ok a) ↔ ∀ r ∈ rules, kept r := by
  simp only [hkept]
  constructor
  · rintro ⟨a, ha⟩
    exact h.kept_of_ok ha
  · intro hall
    cases hx : x with
    | ok a => exact ⟨a, rfl⟩
    | error e => exact absurd ((h e).mp hx) (not_firstBroken_iff.mpr hall e)

theorem error_iff (h : Judges broken rules x) (hkept : ∀ r, kept r ↔ ∀ e, ¬ broken r e) :
    x = .error e ↔ ∃ earlier r later, rules = earlier ++ r :: later ∧
      (∀ r' ∈ earlier, kept r') ∧ ¬ kept r ∧ broken r e := by
  rw [h e]
  constructor
  · rintro ⟨earlier, r, later, hrules, hearlier, hr⟩
    refine ⟨earlier, r, later, hrules, fun r' hr' ↦ (hkept r').mpr (hearlier r' hr'), ?_, hr⟩
    exact fun hk ↦ (hkept r).mp hk e hr
  · rintro ⟨earlier, r, later, hrules, hearlier, -, hr⟩
    exact ⟨earlier, r, later, hrules, fun r' hr' ↦ (hkept r').mp (hearlier r' hr'), hr⟩

theorem bind {f: α → Except ε β} (h : Judges broken rules x)
    (hf : ∀ a, x = .ok a → Judges broken rules' (f a)) :
    Judges broken (rules ++ rules') (x >>= f) := by
  intro e
  rw [firstBroken_append]
  cases x with
  | error e' =>
    have hbroken : ¬ ∀ r ∈ rules, ∀ e, ¬ broken r e := fun hkept ↦
      not_firstBroken_iff.mpr hkept e' ((h e').mp rfl)
    rw [or_iff_left (fun hlater ↦ hbroken hlater.1), ← h e]
    simp [Bind.bind, Except.bind]
  | ok a =>
    have hkept := h.kept_of_ok rfl
    rw [or_iff_right (fun hearlier ↦ not_firstBroken_iff.mpr hkept e hearlier),
      and_iff_right hkept]
    exact hf a rfl e

theorem map (h : Judges broken rules x) (f : α → β) : Judges broken rules (x.map f) := by
  intro e
  rw [← h e]
  cases x <;> simp [Except.map]

end Judges

end FleetControl
