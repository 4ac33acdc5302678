import FleetControl.Rehearsal.Deliveries
import Mathlib.Data.Nat.Notation

namespace FleetControl.Rehearsal

open Command (Event)
open Retry (Answer)

variable {p : Retry.Policy} {n : ℕ} {replies : ℕ → CallReply}

theorem CallReply.ending_eq (p : Retry.Policy) (r : CallReply) :
    r.ending p = (r.inTime p).map Answer.ofCall := by
  unfold ending inTime toAttempt Retry.Policy.outcome
  cases r.answer with
  | none => rfl
  | some answer =>
    have hbind : answer.bind (fun v ↦ .ok v) = answer := by cases answer <;> rfl
    by_cases hd : r.delay ≤ p.attemptTimeout <;> simp [hd, hbind, Option.filter]

theorem CallReply.verdict_ending (p : Retry.Policy) (r : CallReply) (n : ℕ) :
    (r.settles p = true ∧
      ((∃ body, r.inTime p = some (.ok body) ∧
        p.verdict n (r.ending p) = .settled (.ok ⟨body, n⟩)) ∨
      ∃ error, r.inTime p = some (.error error) ∧
        p.verdict n (r.ending p) = .settled (.error (.terminal n error.message)))) ∨
    (r.settles p = false ∧ p.verdict n (r.ending p) = .failed (r.failureText p)) := by
  rw [ending_eq]
  unfold settles failureText
  rcases r.inTime p with - | ⟨error | body⟩
  · exact Or.inr ⟨rfl, rfl⟩
  · cases he : error.isRetryable <;> simp [Answer.ofCall, he, Retry.Policy.verdict]
  · exact Or.inl ⟨rfl, Or.inl ⟨body, rfl, rfl⟩⟩

/-- Whether the replies bring a delivery to attempt `n`, as none before it settles the delivery. -/
def Brings (p : Retry.Policy) (replies : ℕ → CallReply) (n : ℕ) : Prop :=
  1 ≤ n ∧ ∀ k, 1 ≤ k → k < n → (replies k).settles p = false

theorem settledAt?_eq_some : settledAt? p replies = some n ↔
    (replies n).settles p = true ∧ n ≤ p.attempts ∧ Brings p replies n := by
  rw [settledAt?, List.find?_range'_eq_some, List.mem_range'_1, Nat.add_comm 1, Nat.lt_add_one_iff]
  simp [Brings, and_assoc, and_left_comm]

theorem settledAt?_eq_none : settledAt? p replies = none ↔
    ∀ k, 1 ≤ k → k ≤ p.attempts → (replies k).settles p = false := by
  rw [settledAt?, List.find?_range'_eq_none]
  constructor
  · intro h k hk hkn
    simpa using h k hk (by omega)
  · intro h k hk hkn
    simpa using h k hk (by omega)

theorem brings_succ (h : Brings p replies n) (hs : (replies n).settles p = false) :
    Brings p replies (n + 1) := by
  refine ⟨Nat.le_add_left 1 n, fun k hk hkn ↦ ?_⟩
  rcases Nat.lt_succ_iff_lt_or_eq.mp hkn with hlt | rfl
  · exact h.2 k hk hlt
  · exact hs

/-- What the replies make of a delivery: the number of its attempts and the event that ends it. -/
inductive Concludes (p : Retry.Policy) (replies : ℕ → CallReply) : ℕ → Event → Prop
  | answered {n : ℕ} {body : Json} :
    settledAt? p replies = some n → (replies n).inTime p = some (.ok body) →
      Concludes p replies n (.complete body)
  | rejected {n : ℕ} {error : Device.CallError} :
    settledAt? p replies = some n → (replies n).inTime p = some (.error error) →
      Concludes p replies n (.fail (.rejected error.message))
  | exhausted : settledAt? p replies = none → Concludes p replies p.attempts
      (.fail (.unreachable p.attempts ((replies p.attempts).failureText p)))

variable {m : ℕ} {event : Event}

theorem Concludes.of_settled (h : Concludes p replies m event)
    (hn : settledAt? p replies = some n) : m = n ∧
      ((∃ body, (replies n).inTime p = some (.ok body) ∧ event = .complete body) ∨
        ∃ error, (replies n).inTime p = some (.error error) ∧ error.isRetryable = false ∧
          event = .fail (.rejected error.message)) := by
  cases h with
  | answered hm ha =>
    obtain rfl := Option.some.inj (hm.symm.trans hn)
    exact ⟨rfl, Or.inl ⟨_, ha, rfl⟩⟩
  | rejected hm ha =>
    obtain rfl := Option.some.inj (hm.symm.trans hn)
    have hfinal := (settledAt?_eq_some.mp hn).1
    exact ⟨rfl, Or.inr ⟨_, ha, by simpa [CallReply.settles, ha] using hfinal, rfl⟩⟩
  | exhausted hm => simp [hn] at hm

theorem Concludes.of_exhausted (h : Concludes p replies m event)
    (hn : settledAt? p replies = none) : m = p.attempts ∧
      event = .fail (.unreachable p.attempts ((replies p.attempts).failureText p)) := by
  cases h with
  | answered hm => simp [hn] at hm
  | rejected hm => simp [hn] at hm
  | exhausted => exact ⟨rfl, rfl⟩

end FleetControl.Rehearsal
