import FleetControl.Retry.Timetable
import Mathlib.Algebra.BigOperators.Intervals
import Mathlib.Order.Interval.Finset.Nat

namespace FleetControl.Retry

open scoped BigOperators

variable {α : Type} {p : Policy} {script : Script α} {stop : Option Interruption} {left n k : ℕ}
  {now : Span} {result : Result α} {e : String} {i : Interruption}

namespace Policy

theorem outcome_eq (p : Policy) (script : Script α) (n : ℕ) :
    p.outcome (script n) = (p.taken script n, p.inTime script n) := by
  unfold outcome taken inTime
  cases script n with
  | none => rfl
  | some r =>
    by_cases h : r.delay ≤ p.attemptTimeout
    · simp [h]
    · simp [h, Nat.le_of_lt (Nat.lt_of_not_le h)]

theorem verdict_of_comesTo (h : p.ComesTo script n) :
    (∃ result, p.Decides script n result ∧
      p.verdict n (p.inTime script n) = .settled result) ∨
    (p.settles script n = false ∧
      p.verdict n (p.inTime script n) = .failed (p.failureText script n)) := by
  cases ht : p.inTime script n with
  | none => exact Or.inr ⟨by simp [settles, ht], by simp [verdict, failureText, ht]⟩
  | some answer =>
    cases answer with
    | value a => exact Or.inl ⟨_, .value h ht, rfl⟩
    | terminal e => exact Or.inl ⟨_, .terminal h ht, rfl⟩
    | transient e => exact Or.inr ⟨by simp [settles, ht], by simp [verdict, failureText, ht]⟩

theorem ComesTo.succ (h : p.ComesTo script n) (hs : p.settles script n = false)
    (hn : n + 1 ≤ p.attempts) : p.ComesTo script (n + 1) where
  one_le := Nat.le_add_left 1 n
  le_attempts := hn
  before i hi hin := by
    rcases Nat.lt_succ_iff_lt_or_eq.mp hin with hlt | rfl
    · exact h.before i hi hlt
    · exact hs

theorem ComesTo.exhausted (h : p.ComesTo script n) (hs : p.settles script n = false)
    (hn : n = p.attempts) :
    p.Decides script n (.error (.exhausted n (p.failureText script n))) := by
  subst hn
  refine .exhausted fun i hi hin ↦ ?_
  rcases Nat.lt_or_eq_of_le hin with hlt | rfl
  · exact h.before i hi hlt
  · exact hs

theorem runFrom_stopped (h : cutBy stop now = some i) :
    p.runFrom script stop left n now = .ending (.error (i.cut.failure n)) now := by
  cases left <;> simp [runFrom, h]

theorem runFrom_cut (hnow : cutBy stop now = none)
    (h : cutBy stop (now + p.taken script n) = some i) :
    p.runFrom script stop left n now = ⟨[⟨n, now⟩], .error (i.cut.failure n), i.time⟩ := by
  cases left <;> simp [runFrom, hnow, outcome_eq, h, Run.ending]

theorem runFrom_settled (hnow : cutBy stop now = none)
    (hend : cutBy stop (now + p.taken script n) = none)
    (h : p.verdict n (p.inTime script n) = .settled result) :
    p.runFrom script stop left n now = ⟨[⟨n, now⟩], result, now + p.taken script n⟩ := by
  cases left <;> simp [runFrom, hnow, outcome_eq, hend, h, Run.ending]

theorem runFrom_last (hnow : cutBy stop now = none)
    (hend : cutBy stop (now + p.taken script n) = none)
    (h : p.verdict n (p.inTime script n) = .failed e) :
    p.runFrom script stop 0 n now =
      ⟨[⟨n, now⟩], .error (.exhausted n e), now + p.taken script n⟩ := by
  simp [runFrom, hnow, outcome_eq, hend, h, Run.ending]

theorem runFrom_cut_waiting (hnow : cutBy stop now = none)
    (hend : cutBy stop (now + p.taken script n) = none)
    (h : p.verdict n (p.inTime script n) = .failed e)
    (hnext : cutBy stop (now + p.taken script n + p.backoff n) = some i) :
    p.runFrom script stop (left + 1) n now =
      ⟨[⟨n, now⟩], .error (i.cut.failure n), i.time⟩ := by
  simp [runFrom, hnow, outcome_eq, hend, h, hnext, Run.ending]

theorem runFrom_next (hnow : cutBy stop now = none)
    (hend : cutBy stop (now + p.taken script n) = none)
    (h : p.verdict n (p.inTime script n) = .failed e)
    (hnext : cutBy stop (p.next script n now) = none) :
    p.runFrom script stop (left + 1) n now =
      { p.runFrom script stop left (n + 1) (p.next script n now) with
        begun := ⟨n, now⟩ ::
          (p.runFrom script stop left (n + 1) (p.next script n now)).begun } := by
  unfold next at hnext
  rw [runFrom]
  simp [hnow, outcome_eq, hend, h, hnext, next]

/-- How long after attempt `n` attempt `k` begins, when all attempts from `n` on fail. -/
def gap (p : Policy) (script : Script α) (n k : ℕ) : Span :=
  ∑ i ∈ Finset.Ico n k, (p.taken script i + p.backoff i)

theorem gap_self (p : Policy) (script : Script α) (n : ℕ) : p.gap script n n = 0 := by
  simp [gap]

theorem next_add_gap (h : n < k) :
    p.next script n now + p.gap script (n + 1) k = now + p.gap script n k := by
  rw [gap, gap, Finset.sum_eq_sum_Ico_succ_bot h, next]
  simp only [Nat.add_assoc]

def beginnings (p : Policy) (script : Script α) (n k : ℕ) (now : Span) : List Begun :=
  (List.range' n (k + 1 - n)).map fun i ↦ ⟨i, now + p.gap script n i⟩

theorem beginnings_self (p : Policy) (script : Script α) (n : ℕ) (now : Span) :
    p.beginnings script n n now = [⟨n, now⟩] := by
  simp [beginnings, gap_self]

theorem beginnings_next (h : n < k) : p.beginnings script n k now =
    ⟨n, now⟩ :: p.beginnings script (n + 1) k (p.next script n now) := by
  have hlen : k + 1 - n = (k + 1 - (n + 1)) + 1 := by omega
  rw [beginnings, hlen, List.range'_succ, List.map_cons, gap_self]
  congr 1
  refine List.map_congr_left fun i hi ↦ ?_
  have hni : n < i := by
    have := (List.mem_range'_1.mp hi).1
    omega
  rw [next_add_gap hni]

/-- The run from attempt `n` on, to the attempt that decides. -/
theorem runFrom_uninterrupted (now : Span) (h : p.ComesTo script n)
    (hleft : n + left = p.attempts) :
    ∃ k result, n ≤ k ∧ p.Decides script k result ∧ p.runFrom script none left n now =
      ⟨p.beginnings script n k now, result, now + p.gap script n k + p.taken script k⟩ := by
  -- along the attempts that are left; none before `n` has settled the request
  induction left generalizing n now with
  | zero =>
    rcases verdict_of_comesTo h with ⟨result, hd, hv⟩ | ⟨hs, hv⟩
    · refine ⟨n, result, le_rfl, hd, ?_⟩
      rw [runFrom_settled rfl rfl hv, beginnings_self, gap_self]
      rfl
    · refine ⟨n, _, le_rfl, h.exhausted hs hleft, ?_⟩
      rw [runFrom_last rfl rfl hv, beginnings_self, gap_self]
      rfl
  | succ left ih =>
    rcases verdict_of_comesTo h with ⟨result, hd, hv⟩ | ⟨hs, hv⟩
    · refine ⟨n, result, le_rfl, hd, ?_⟩
      rw [runFrom_settled rfl rfl hv, beginnings_self, gap_self]
      rfl
    · have hnext : p.ComesTo script (n + 1) := h.succ hs (by omega)
      obtain ⟨k, result, hk, hd, hrun⟩ := ih (p.next script n now) hnext (by omega)
      refine ⟨k, result, by omega, hd, ?_⟩
      rw [runFrom_next rfl rfl hv rfl, hrun, beginnings_next hk, next_add_gap hk]

theorem gap_add_taken (h : 1 ≤ k) : p.gap script 1 k + p.taken script k =
    ∑ i ∈ Finset.Icc 1 k, p.taken script i + ∑ i ∈ Finset.Ico 1 k, p.backoff i := by
  rw [gap, Finset.sum_add_distrib, ← Finset.Ico_succ_right_eq_Icc, Nat.succ_eq_succ,
    Finset.sum_Ico_succ_top h]
  exact Nat.add_right_comm _ _ _

/-- A request that nothing interrupts begins its attempts in order, each after the one before and a
wait, up to the attempt that decides it. It ends with what that attempt comes to, after the time of its
attempts and of the waits between them. -/
theorem run_uninterrupted (hp : p.overall = none) (script : Script α) (start : Span) :
    ∃ k result, p.Decides script k result ∧ p.run script start none =
      { begun := (List.range' 1 k).map fun i ↦ ⟨i, start + p.gap script 1 i⟩
        result := result
        finish := start + (∑ i ∈ Finset.Icc 1 k, p.taken script i +
          ∑ i ∈ Finset.Ico 1 k, p.backoff i) } := by
  have hone : 1 ≤ p.attempts := Nat.le_max_right _ _
  have hfirst : p.ComesTo script 1 := ⟨le_rfl, hone, fun i hi hin ↦ by omega⟩
  have hleft : 1 + (p.attempts - 1) = p.attempts := by omega
  obtain ⟨k, result, hk, hd, hrun⟩ := runFrom_uninterrupted start hfirst hleft
  refine ⟨k, result, hd, ?_⟩
  rw [run, hp, Option.map_none, Interruption.first, hrun, beginnings, Nat.add_sub_cancel,
    ← gap_add_taken hk, Nat.add_assoc]

/-- An unavailable service, then none that answers, then one that does at the last moment. -/
def wavering : Script ℕ
  | 1 => some ⟨40, .transient "503"⟩
  | 2 => none
  | _ => some ⟨1000, .value 7⟩

def patient : Policy := ⟨4, 100, 350, 1000, none⟩

theorem run_uninterrupted_wavering : patient.overall = none ∧
    patient.run wavering 0 none = ⟨[⟨1, 0⟩, ⟨2, 140⟩, ⟨3, 1340⟩], .ok ⟨7, 3⟩, 2340⟩ ∧
    patient.Decides wavering 3 (.ok ⟨7, 3⟩) ∧
    2340 = ∑ i ∈ Finset.Icc 1 3, patient.taken wavering i +
      ∑ i ∈ Finset.Ico 1 3, patient.backoff i := by
  have hrun : patient.run wavering 0 none =
      ⟨[⟨1, 0⟩, ⟨2, 140⟩, ⟨3, 1340⟩], .ok ⟨7, 3⟩, 2340⟩ := rfl
  obtain ⟨k, result, hd, h⟩ := run_uninterrupted rfl wavering 0 (p := patient)
  rw [hrun, Run.mk.injEq] at h
  obtain ⟨hbegun, rfl, hfinish⟩ := h
  obtain rfl : k = 3 := by simpa using (congrArg List.length hbegun).symm
  exact ⟨rfl, hrun, hd, hfinish.trans (Nat.zero_add _)⟩

end Policy

end FleetControl.Retry
