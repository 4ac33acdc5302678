import FleetControl.Proofs.Geo.Ranges
import FleetControl.Proofs.Geo.Spell
import Mathlib.Order.Lattice.Nat

namespace FleetControl.Geo

section Faults

variable (samples : List Sample)

def OutOfRangeAt (i : ℕ) (p : Sample.Problem) : Prop := ∃ s, samples[i]? = some s ∧ s.OutOfRange p

def BackwardsAt (i : ℕ) : Prop :=
  ∃ a b, 0 < i ∧ samples[i - 1]? = some a ∧ samples[i]? = some b ∧ b.time.rank < a.time.rank

end Faults

variable {p : ℕ → Prop} {i k : ℕ}

theorem isLeast_of_holds (h : p i) : IsLeast {j | i ≤ j ∧ p j} k ↔ k = i := by
  have hi : IsLeast {j | i ≤ j ∧ p j} i := ⟨⟨Nat.le_refl i, h⟩, fun j hj ↦ hj.1⟩
  constructor
  · exact fun hk ↦ hk.unique hi
  · rintro rfl
    exact hi

theorem isLeast_of_not (h : ¬ p i) :
    IsLeast {j | i ≤ j ∧ p j} k ↔ IsLeast {j | i + 1 ≤ j ∧ p j} k := by
  have hset : {j | i ≤ j ∧ p j} = {j | i + 1 ≤ j ∧ p j} := by
    ext j
    constructor
    · rintro ⟨hle, hj⟩
      refine ⟨Nat.lt_of_le_of_ne hle ?_, hj⟩
      rintro rfl
      exact h hj
    · exact fun ⟨hlt, hj⟩ ↦ ⟨Nat.le_of_lt hlt, hj⟩
  rw [hset]

theorem isLeast_from_zero : IsLeast {j | 0 ≤ j ∧ p j} k ↔ IsLeast {j | p j} k := by
  simp

theorem exists_isLeast (h : ∃ j, p j) : ∃ k, IsLeast {j | p j} k := ⟨_, isLeast_csInf h⟩

variable {samples rest : List Sample} {s first previous : Sample} {q : Sample.Problem}

theorem outOfRangeAt_iff (h : samples[i]? = some s) :
    OutOfRangeAt samples i q ↔ s.problem? = some q := by
  simp [OutOfRangeAt, h, Sample.problem?_eq_some_iff]

theorem OutOfRangeAt.lt_length (h : OutOfRangeAt samples i q) : i < samples.length := by
  obtain ⟨s, hs, -⟩ := h
  exact (List.getElem?_eq_some_iff.mp hs).1

theorem OutOfRangeAt.unique {q' : Sample.Problem} (h : OutOfRangeAt samples i q)
    (h' : OutOfRangeAt samples i q') : q = q' := by
  have ⟨s, hs, _⟩ := h
  rw [outOfRangeAt_iff hs] at h h'
  exact Option.some.inj (h.symm.trans h')

theorem forall_inRange_iff : (∀ s ∈ samples, s.InRange) ↔ ∀ i q, ¬ OutOfRangeAt samples i q := by
  simp only [Sample.inRange_iff, List.mem_iff_getElem?, OutOfRangeAt, not_exists, not_and]
  exact ⟨fun h i q s hs ↦ h s ⟨i, hs⟩ q, fun h s ⟨i, hs⟩ q ↦ h i q s hs⟩

theorem backwardsAt_iff (hpos : 0 < i) (hprevious : samples[i - 1]? = some previous)
    (hs : samples[i]? = some s) :
    BackwardsAt samples i ↔ s.time.before previous.time = true := by
  simp [BackwardsAt, hpos, hprevious, hs, Instant.before]

theorem BackwardsAt.lt_length (h : BackwardsAt samples i) : i < samples.length := by
  obtain ⟨a, b, -, -, hb, -⟩ := h
  exact (List.getElem?_eq_some_iff.mp hb).1

namespace Track

theorem firstProblem_spec (hrest : samples.drop i = rest) :
    firstProblem i rest = some (k, q) ↔
      IsLeast {j | i ≤ j ∧ ∃ q, OutOfRangeAt samples j q} k ∧ OutOfRangeAt samples k q := by
  induction rest generalizing i with
  | nil =>
    have hlength : samples.length ≤ i := List.drop_eq_nil_iff.mp hrest
    constructor
    · intro h
      cases h
    · rintro ⟨hleast, hk⟩
      have hle : i ≤ k := hleast.1.1
      have := hk.lt_length
      omega
  | cons s rest ih =>
    obtain ⟨hs, hnext⟩ := of_drop_eq_cons hrest
    unfold firstProblem
    cases hq : s.problem? with
    | some q' =>
      have hi : OutOfRangeAt samples i q' := (outOfRangeAt_iff hs).mpr hq
      rw [isLeast_of_holds ⟨q', hi⟩]
      simp only [Option.some.injEq, Prod.mk.injEq]
      constructor
      · rintro ⟨rfl, rfl⟩
        exact ⟨rfl, hi⟩
      · rintro ⟨rfl, hk⟩
        exact ⟨rfl, hi.unique hk⟩
    | none =>
      have hi : ¬ ∃ q, OutOfRangeAt samples i q := by
        rintro ⟨q, h⟩
        rw [outOfRangeAt_iff hs, hq] at h
        cases h
      rw [isLeast_of_not hi]
      exact ih hnext

theorem firstBackwards_spec (hpos : 0 < i) (hprevious : samples[i - 1]? = some previous)
    (hrest : samples.drop i = rest) :
    firstBackwards i previous rest = some k ↔ IsLeast {j | i ≤ j ∧ BackwardsAt samples j} k := by
  induction rest generalizing i previous with
  | nil =>
    have hlength : samples.length ≤ i := List.drop_eq_nil_iff.mp hrest
    constructor
    · intro h
      cases h
    · intro hleast
      have hle : i ≤ k := hleast.1.1
      have := hleast.1.2.lt_length
      omega
  | cons s rest ih =>
    obtain ⟨hs, hnext⟩ := of_drop_eq_cons hrest
    have hbackwards := backwardsAt_iff hpos hprevious hs
    unfold firstBackwards
    split
    case isTrue hbefore =>
      rw [isLeast_of_holds (hbackwards.mpr hbefore), Option.some.injEq, eq_comm]
    case isFalse hbefore =>
      rw [isLeast_of_not (mt hbackwards.mp hbefore)]
      exact ih (Nat.succ_pos i) hs hnext

theorem isLeast_backwards : IsLeast {j | 1 ≤ j ∧ BackwardsAt samples j} k ↔
    IsLeast {j | BackwardsAt samples j} k := by
  have hset : {j | 1 ≤ j ∧ BackwardsAt samples j} = {j | BackwardsAt samples j} := by
    ext j
    exact and_iff_right_of_imp fun ⟨_, _, hpos, _⟩ ↦ hpos
  rw [hset]

theorem rank_le_of_le {a b : Sample} {j : ℕ} (h : ∀ i, ¬ BackwardsAt samples i) (hij : i ≤ j)
    (ha : samples[i]? = some a) (hb : samples[j]? = some b) : a.time.rank ≤ b.time.rank := by
  induction j, hij using Nat.le_induction generalizing b with
  | base => rw [Option.some.inj (ha.symm.trans hb)]
  | succ j hij ih =>
    have hlt : j < samples.length := Nat.lt_of_succ_lt (List.getElem?_eq_some_iff.mp hb).1
    have hc := List.getElem?_eq_getElem hlt
    refine Int.le_trans (ih hc) ?_
    by_contra hback
    exact h (j + 1) ⟨_, b, Nat.succ_pos j, hc, hb, Int.not_le.mp hback⟩

structure Of (t : Track) (entity : String) (given : List Sample) : Prop where
  entity : t.entity = entity
  samples : t.samples = given
  ordered {i j : ℕ} {a b : Sample} :
    i ≤ j → given[i]? = some a → given[j]? = some b → a.time.rank ≤ b.time.rank
  start : given.head?.map Sample.time = some t.start
  finish : given.getLast?.map Sample.time = some t.finish
  bounds : ∀ s ∈ given, t.start.rank ≤ s.time.rank ∧ s.time.rank ≤ t.finish.rank

theorem getLast?_samples (t : Track) : t.samples.getLast?.map Sample.time = some t.finish := by
  simp [samples, finish, List.getLast?_cons]

theorem of_samples (t : Track) (h : ∀ i, ¬ BackwardsAt t.samples i) : t.Of t.entity t.samples where
  entity := rfl
  samples := rfl
  ordered := rank_le_of_le h
  start := rfl
  finish := t.getLast?_samples
  bounds s hs := by
    obtain ⟨i, hi⟩ := List.mem_iff_getElem?.mp hs
    obtain ⟨last, hlast, hfinish⟩ := Option.map_eq_some_iff.mp t.getLast?_samples
    rw [List.getLast?_eq_getElem?] at hlast
    have hlt := (List.getElem?_eq_some_iff.mp hi).1
    constructor
    · exact rank_le_of_le h (Nat.zero_le i) rfl hi
    · rw [← hfinish]
      exact rank_le_of_le h (Nat.le_sub_one_of_lt hlt) hi hlast

inductive Rule where
  | inhabited
  | inRange
  | inOrder
deriving DecidableEq

def Rule.all : List Rule := [.inhabited, .inRange, .inOrder]

def Rule.Met (samples : List Sample) : Rule → Prop
  | .inhabited => samples ≠ []
  | .inRange => ∀ s ∈ samples, s.InRange
  | .inOrder => ∀ i, ¬ BackwardsAt samples i

inductive Rule.Broken (samples : List Sample) : Rule → Error → Prop where
  | inhabited : samples = [] → Broken samples .inhabited .empty
  | inRange {i : ℕ} {q : Sample.Problem} : IsLeast {j | ∃ q, OutOfRangeAt samples j q} i →
      OutOfRangeAt samples i q → Broken samples .inRange (.outOfRange i q)
  | inOrder {i : ℕ} : IsLeast {j | BackwardsAt samples j} i →
      Broken samples .inOrder (.backwards i)

namespace Rule

variable {r : Rule} {e e' : Error}

theorem mem_all (r : Rule) : r ∈ all := by
  cases r <;> decide

theorem Broken.unique (h : r.Broken samples e) (h' : r.Broken samples e') : e = e' := by
  cases h with
  | inhabited => cases h'; rfl
  | inRange hleast hi =>
    cases h' with
    | inRange hleast' hi' =>
      obtain rfl := hleast.unique hleast'
      rw [hi.unique hi']
  | inOrder hleast =>
    cases h' with
    | inOrder hleast' => rw [hleast.unique hleast']

theorem met_iff (r : Rule) : r.Met samples ↔ ∀ e, ¬ r.Broken samples e := by
  constructor
  · intro h e he
    cases he with
    | inhabited hnil => exact h hnil
    | inRange _ hi => exact forall_inRange_iff.mp h _ _ hi
    | inOrder hleast => exact h _ hleast.1
  · intro h
    cases r with
    | inhabited => exact fun hnil ↦ h _ (.inhabited hnil)
    | inRange =>
      refine forall_inRange_iff.mpr fun i q hi ↦ ?_
      have hsome : ∃ j q, OutOfRangeAt samples j q := ⟨i, q, hi⟩
      obtain ⟨k, hk⟩ := exists_isLeast hsome
      obtain ⟨q', hq'⟩ : ∃ q', OutOfRangeAt samples k q' := hk.1
      exact h _ (.inRange hk hq')
    | inOrder =>
      intro i hi
      have hsome : ∃ j, BackwardsAt samples j := ⟨i, hi⟩
      obtain ⟨k, hk⟩ := exists_isLeast hsome
      exact h _ (.inOrder hk)

theorem Broken.judges {α : Type} {rules : List Rule} (h : r.Broken samples e) :
    Judges (Broken samples) (r :: rules) (.error e : Except Error α) :=
  judges_error h fun _ h' ↦ h'.unique h

theorem judges_of_met {α : Type} {rules : List Rule} {x : Except Error α} (h : r.Met samples)
    (hx : Judges (Broken samples) rules x) : Judges (Broken samples) (r :: rules) x :=
  hx.cons ((met_iff r).mp h)

end Rule

theorem firstProblem_eq_some_iff :
    firstProblem 0 samples = some (i, q) ↔ Rule.Broken samples .inRange (.outOfRange i q) := by
  rw [firstProblem_spec List.drop_zero, isLeast_from_zero]
  constructor
  · exact fun ⟨hleast, hi⟩ ↦ .inRange hleast hi
  · intro h
    cases h with
    | inRange hleast hi => exact ⟨hleast, hi⟩

theorem firstBackwards_eq_some_iff : firstBackwards 1 first rest = some i ↔
    Rule.Broken (first :: rest) .inOrder (.backwards i) := by
  have hspec : firstBackwards 1 first rest = some i ↔
      IsLeast {j | 1 ≤ j ∧ BackwardsAt (first :: rest) j} i :=
    firstBackwards_spec Nat.one_pos rfl rfl
  rw [hspec, isLeast_backwards]
  constructor
  · exact fun hleast ↦ .inOrder hleast
  · intro h
    cases h with
    | inOrder hleast => exact hleast

theorem judges_ofSamples (entity : String) (samples : List Sample) :
    Judges (Rule.Broken samples) Rule.all (ofSamples entity samples) := by
  cases samples with
  | nil => exact Rule.Broken.judges (.inhabited rfl)
  | cons first rest =>
    refine Rule.judges_of_met (List.cons_ne_nil first rest) ?_
    simp only [ofSamples]
    split
    case h_1 i q hproblem => exact Rule.Broken.judges (firstProblem_eq_some_iff.mp hproblem)
    case h_2 hproblem =>
      have hrange : Rule.Met (first :: rest) .inRange := by
        rw [Rule.met_iff]
        intro e he
        cases he with
        | inRange hleast hi =>
          rw [firstProblem_eq_some_iff.mpr (.inRange hleast hi)] at hproblem
          cases hproblem
      refine Rule.judges_of_met hrange ?_
      split
      case h_1 i hback => exact Rule.Broken.judges (firstBackwards_eq_some_iff.mp hback)
      case h_2 hback =>
        have horder : Rule.Met (first :: rest) .inOrder := by
          rw [Rule.met_iff]
          intro e he
          cases he with
          | inOrder hleast =>
            rw [firstBackwards_eq_some_iff.mpr (.inOrder hleast)] at hback
            cases hback
        exact Rule.judges_of_met horder (judges_ok _)

theorem eq_of_ofSamples {entity : String} {t : Track} (h : ofSamples entity samples = .ok t) :
    t.entity = entity ∧ t.samples = samples := by
  cases samples with
  | nil => cases h
  | cons first rest =>
    simp only [ofSamples] at h
    split at h
    · cases h
    · split at h
      · cases h
      · cases h
        exact ⟨rfl, rfl⟩

/-- Samples make a track just if there are some, all are in range and none is earlier than the one before
it. Otherwise the first of these rules that is not met gives the error, at the least index. -/
theorem ofSamples_verdict (entity : String) (samples : List Sample) :
    ((∃ t, ofSamples entity samples = .ok t) ↔ ∀ r : Rule, r.Met samples) ∧
      (∀ t, ofSamples entity samples = .ok t → t.Of entity samples) ∧
      ∀ e, ofSamples entity samples = .error e ↔
        ∃ earlier r later, Rule.all = earlier ++ r :: later ∧
          (∀ r' ∈ earlier, r'.Met samples) ∧ ¬ r.Met samples ∧ r.Broken samples e := by
  have hjudges := judges_ofSamples entity samples
  refine ⟨?_, fun t ht ↦ ?_, fun e ↦ hjudges.error_iff Rule.met_iff⟩
  · rw [hjudges.ok_iff Rule.met_iff]
    exact forall_congr' fun r ↦ forall_prop_of_true r.mem_all
  · obtain ⟨rfl, rfl⟩ := eq_of_ofSamples ht
    have horder : Rule.Met t.samples .inOrder :=
      (hjudges.ok_iff Rule.met_iff).mp ⟨t, ht⟩ _ (Rule.mem_all _)
    exact t.of_samples horder

/-- The second sample is too slow and too early; the first rule that is not met counts. -/
example :
    let sample (second : ℕ) (speed : Float) : Sample :=
      (Sample.of (.of 0.0 0.0) ⟨0, second, 0⟩).withSpeed speed
    (ofSamples "uav" [sample 10 0.0, sample 5 (-0.1)]).toOption = none ∧
      firstProblem 0 [sample 10 0.0, sample 5 (-0.1)] = some (1, .speed (-0.1)) := by
  decide +kernel

end Track

end FleetControl.Geo
