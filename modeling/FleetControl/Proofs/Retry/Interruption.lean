import FleetControl.Proofs.Retry.Attempts
import Mathlib.Order.Lattice.Nat
import Mathlib.Order.WithBot

namespace FleetControl.Retry

variable {α : Type} {p : Policy} {script : Script α} {left n k : ℕ} {now start : Span}
  {i : Interruption} {cancelled deadline : Option Span} {b : Begun}

theorem cutBy_of_le (h : i.time ≤ now) : cutBy (some i) now = some i := by
  simp [cutBy, Option.filter, h]

theorem cutBy_of_lt (h : now < i.time) : cutBy (some i) now = none := by
  simp [cutBy, Option.filter, h]

namespace Policy

/-- What a run makes of one attempt, when nothing interrupts it: it ends with the attempt, and does so
whatever comes later, or the attempt fails and others follow. -/
theorem runFrom_cases (p : Policy) (script : Script α) (left n : ℕ) (now : Span) :
    (∃ result, p.runFrom script none left n now = ⟨[⟨n, now⟩], result, now + p.taken script n⟩ ∧
      ∀ stop, cutBy stop now = none → cutBy stop (now + p.taken script n) = none →
        p.runFrom script stop left n now = p.runFrom script none left n now) ∨
    ∃ m e, left = m + 1 ∧ p.verdict n (p.inTime script n) = .failed e := by
  cases hv : p.verdict n (p.inTime script n) with
  | settled result =>
    refine Or.inl ⟨result, runFrom_settled rfl rfl hv, fun stop hnow hend ↦ ?_⟩
    rw [runFrom_settled hnow hend hv, runFrom_settled rfl rfl hv]
  | failed e =>
    cases left with
    | zero =>
      refine Or.inl ⟨_, runFrom_last rfl rfl hv, fun stop hnow hend ↦ ?_⟩
      rw [runFrom_last hnow hend hv, runFrom_last rfl rfl hv]
    | succ m => exact Or.inr ⟨m, e, rfl, rfl⟩

theorem le_ended (p : Policy) (script : Script α) (n : ℕ) (now : Span) :
    now ≤ now + p.taken script n := Nat.le_add_right _ _

theorem ended_le_next (p : Policy) (script : Script α) (n : ℕ) (now : Span) :
    now + p.taken script n ≤ p.next script n now := Nat.le_add_right _ _

theorem runFrom_after (p : Policy) (script : Script α) (left n : ℕ) (now : Span) :
    now + p.taken script n ≤ (p.runFrom script none left n now).finish ∧
      ∀ b ∈ (p.runFrom script none left n now).begun, now ≤ b.time := by
  induction left generalizing n now with
  | zero =>
    rcases runFrom_cases p script 0 n now with ⟨result, hrun, -⟩ | ⟨m, e, hm, -⟩
    · simp [hrun]
    · cases hm
  | succ left ih =>
    rcases runFrom_cases p script (left + 1) n now with ⟨result, hrun, -⟩ | ⟨m, e, -, hv⟩
    · simp [hrun]
    · obtain ⟨hfinish, hbegun⟩ := ih (n + 1) (p.next script n now)
      have hnext := ended_le_next p script n now
      rw [runFrom_next rfl rfl hv rfl]
      refine ⟨hnext.trans ((le_ended _ _ _ _).trans hfinish), ?_⟩
      intro b hb
      rcases List.mem_cons.mp hb with rfl | hb
      · exact le_rfl
      · exact ((le_ended p script n now).trans hnext).trans (hbegun b hb)

theorem runFrom_same (h : (p.runFrom script none left n now).finish < i.time) :
    p.runFrom script (some i) left n now = p.runFrom script none left n now := by
  have hafter := (runFrom_after p script left n now).1.trans_lt h
  have hend : cutBy (some i) (now + p.taken script n) = none := cutBy_of_lt hafter
  have hnow : cutBy (some i) now = none := cutBy_of_lt ((le_ended _ _ _ _).trans_lt hafter)
  induction left generalizing n now with
  | zero =>
    rcases runFrom_cases p script 0 n now with ⟨result, -, hsame⟩ | ⟨m, e, hm, -⟩
    · exact hsame _ hnow hend
    · cases hm
  | succ left ih =>
    rcases runFrom_cases p script (left + 1) n now with ⟨result, -, hsame⟩ | ⟨m, e, -, hv⟩
    · exact hsame _ hnow hend
    · rw [runFrom_next rfl rfl hv rfl] at h
      have hrest := (runFrom_after p script left (n + 1) (p.next script n now)).1.trans_lt h
      have hnext := cutBy_of_lt ((le_ended _ _ _ _).trans_lt hrest)
      rw [runFrom_next hnow hend hv hnext, runFrom_next rfl rfl hv rfl,
        ih h hrest (cutBy_of_lt hrest) hnext]

theorem begunBefore_late (h : i.time ≤ now) :
    (p.runFrom script none left n now).begunBefore i.time = [] := by
  refine List.filter_eq_nil_iff.mpr fun b hb ↦ ?_
  have hb := h.trans ((runFrom_after p script left n now).2 b hb)
  simpa using hb

theorem begunBefore_cons {rest : Run α} (hb : b.time < i.time) :
    Run.begunBefore i.time { rest with begun := b :: rest.begun } =
      b :: rest.begunBefore i.time := by
  simp [Run.begunBefore, hb]

/-- A run that is cut has begun the attempts of the whole run that come before the cut, at least one of
them, and ends in the last one of them, at the time of the cut. -/
theorem runFrom_cutShort (hnow : now < i.time)
    (h : i.time ≤ (p.runFrom script none left n now).finish) :
    ∃ m, ((p.runFrom script none left n now).begunBefore i.time).length = m + 1 ∧
      p.runFrom script (some i) left n now =
        ⟨(p.runFrom script none left n now).begunBefore i.time,
          .error (i.cut.failure (n + m)), i.time⟩ := by
  have hstart : cutBy (some i) now = none := cutBy_of_lt hnow
  have hone (result : Result α) (finish : Span) :
      Run.begunBefore i.time ⟨[⟨n, now⟩], result, finish⟩ = [⟨n, now⟩] := by
    simp [Run.begunBefore, hnow]
  induction left generalizing n now with
  | zero =>
    rcases runFrom_cases p script 0 n now with ⟨result, hrun, -⟩ | ⟨m, e, hm, -⟩
    · rw [hrun] at h ⊢
      refine ⟨0, by rw [hone]; rfl, ?_⟩
      rw [runFrom_cut hstart (cutBy_of_le h), hone, Nat.add_zero]
    · cases hm
  | succ left ih =>
    rcases runFrom_cases p script (left + 1) n now with ⟨result, hrun, -⟩ | ⟨m, e, -, hv⟩
    · rw [hrun] at h ⊢
      refine ⟨0, by rw [hone]; rfl, ?_⟩
      rw [runFrom_cut hstart (cutBy_of_le h), hone, Nat.add_zero]
    · rw [runFrom_next rfl rfl hv rfl] at h ⊢
      rw [begunBefore_cons hnow]
      by_cases hnext : p.next script n now < i.time
      · -- the cut comes in a later attempt
        have hend := (ended_le_next p script n now).trans_lt hnext
        obtain ⟨m, hm, hrun⟩ := ih hnext h (cutBy_of_lt hnext) (by simp [Run.begunBefore, hnext])
        refine ⟨m + 1, by rw [List.length_cons, hm], ?_⟩
        rw [runFrom_next hstart (cutBy_of_lt hend) hv (cutBy_of_lt hnext), hrun,
          Nat.add_right_comm n 1 m, Nat.add_assoc]
      · -- it comes in this attempt or in the wait after it
        have hnext := Nat.le_of_not_lt hnext
        refine ⟨0, by rw [begunBefore_late hnext]; rfl, ?_⟩
        rw [begunBefore_late hnext, Nat.add_zero]
        by_cases hend : now + p.taken script n < i.time
        · exact runFrom_cut_waiting hstart (cutBy_of_lt hend) hv (cutBy_of_le hnext)
        · exact runFrom_cut hstart (cutBy_of_le (Nat.le_of_not_lt hend))

theorem runFrom_without_overall (p : Policy) (script : Script α) (left n : ℕ) (now : Span) :
    { p with overall := none }.runFrom script none left n now =
      p.runFrom script none left n now := by
  have hverdict : { p with overall := none }.verdict n ({ p with overall := none }.inTime script n) =
      p.verdict n (p.inTime script n) := rfl
  induction left generalizing n now with
  | zero =>
    cases hv : p.verdict n (p.inTime script n) with
    | settled result =>
      rw [runFrom_settled rfl rfl hv, runFrom_settled rfl rfl (hverdict.trans hv)]
      rfl
    | failed e =>
      rw [runFrom_last rfl rfl hv, runFrom_last rfl rfl (hverdict.trans hv)]
      rfl
  | succ left ih =>
    cases hv : p.verdict n (p.inTime script n) with
    | settled result =>
      rw [runFrom_settled rfl rfl hv, runFrom_settled rfl rfl (hverdict.trans hv)]
      rfl
    | failed e =>
      rw [runFrom_next rfl rfl hv rfl, runFrom_next rfl rfl (hverdict.trans hv) rfl,
        ih (n + 1) _ rfl]
      rfl

def moment (time : Option Span) : WithTop Span := time.elim ⊤ WithTop.some

theorem first_none (h : Interruption.first cancelled deadline = none) :
    min (moment cancelled) (moment deadline) = ⊤ := by
  cases cancelled <;> cases deadline <;> simp_all [Interruption.first, moment]
  split at h <;> cases h

theorem first_some (h : Interruption.first cancelled deadline = some i) (m : ℕ) :
    min (moment cancelled) (moment deadline) = WithTop.some i.time ∧
      i.cut.failure m =
        if moment cancelled ≤ moment deadline then .cancelled m else .deadline m := by
  cases cancelled with
  | none =>
    cases deadline with
    | none => cases h
    | some d =>
      obtain rfl := Option.some.inj h
      exact ⟨min_eq_right le_top, (if_neg (WithTop.coe_lt_top d).not_ge).symm⟩
  | some t =>
    cases deadline with
    | none =>
      obtain rfl := Option.some.inj h
      exact ⟨min_eq_left le_top, (if_pos le_top).symm⟩
    | some d =>
      rw [Interruption.first] at h
      by_cases htd : t ≤ d
      · rw [if_pos htd, Option.some.injEq] at h
        subst h
        have hle : moment (some t) ≤ moment (some d) := WithTop.coe_le_coe.mpr htd
        exact ⟨min_eq_left hle, (if_pos hle).symm⟩
      · rw [if_neg htd, Option.some.injEq] at h
        subst h
        have hlt : moment (some d) < moment (some t) :=
          WithTop.coe_lt_coe.mpr (Nat.lt_of_not_le htd)
        exact ⟨min_eq_right hlt.le, (if_neg hlt.not_ge).symm⟩

/-- A cancellation and a time limit only cut a run short. Up to the earlier of the two it is the run
that nothing interrupts. If the latter is still going on then, it ends at this time, or at its start if
the cancellation is older, with the attempts begun before. -/
theorem run_interrupted (p : Policy) (script : Script α) (start : Span) (cancelled : Option Span) :
    (WithTop.some (p.wholeRun script start).finish <
        min (moment cancelled) (moment (p.limit start)) →
      p.run script start cancelled = p.wholeRun script start) ∧
    ∀ time : Span, min (moment cancelled) (moment (p.limit start)) = WithTop.some time →
      time ≤ (p.wholeRun script start).finish →
        (p.run script start cancelled).finish = max start time ∧
        (p.run script start cancelled).begun = (p.wholeRun script start).begunBefore time ∧
        (p.run script start cancelled).result = .error
          (if moment cancelled ≤ moment (p.limit start) then
            .cancelled (max 1 (p.run script start cancelled).begun.length)
          else .deadline (max 1 (p.run script start cancelled).begun.length)) := by
  have hwhole : p.wholeRun script start = p.runFrom script none (p.attempts - 1) 1 start :=
    runFrom_without_overall p script (p.attempts - 1) 1 start
  have hrun : p.run script start cancelled = p.runFrom script
      (Interruption.first cancelled (p.limit start)) (p.attempts - 1) 1 start := rfl
  rw [hwhole]
  cases hi : Interruption.first cancelled (p.limit start) with
  | none =>
    refine ⟨fun _ ↦ by rw [hrun, hi], fun time htime ↦ ?_⟩
    rw [first_none hi] at htime
    cases htime
  | some i =>
    rw [hi] at hrun
    rw [(first_some hi 0).1]
    refine ⟨fun h ↦ ?_, fun time htime h ↦ ?_⟩
    · rw [hrun]
      exact runFrom_same (WithTop.coe_lt_coe.mp h)
    · obtain rfl : i.time = time := WithTop.coe_injective htime
      rw [← (first_some hi _).2, hrun]
      by_cases hnow : start < i.time
      · obtain ⟨m, hm, hcut⟩ := runFrom_cutShort hnow h
        have hcount : max 1 (m + 1) = 1 + m := by omega
        rw [hcut, max_eq_right hnow.le, hm, hcount]
        exact ⟨rfl, rfl, rfl⟩
      · have hstart := Nat.le_of_not_lt hnow
        rw [runFrom_stopped (cutBy_of_le hstart), begunBefore_late hstart, max_eq_left hstart]
        exact ⟨rfl, rfl, rfl⟩

theorem run_interrupted_wavering :
    (patient.wholeRun wavering 0).finish = 2340 ∧
    (min (moment (some 2500)) (moment ({ patient with overall := some 2400 }.limit 0)) =
        WithTop.some 2400 ∧
      { patient with overall := some 2400 }.run wavering 0 (some 2500) =
        patient.wholeRun wavering 0) ∧
    min (moment (some 700)) (moment ({ patient with overall := some 900 }.limit 0)) =
        WithTop.some 700 ∧
      ({ patient with overall := some 900 }.run wavering 0 (some 700)).finish = 700 ∧
      ({ patient with overall := some 900 }.run wavering 0 (some 700)).begun =
        [⟨1, 0⟩, ⟨2, 140⟩] ∧
      ({ patient with overall := some 900 }.run wavering 0 (some 700)).result =
        .error (.cancelled 2) := by
  have hlong : min (moment (some 2500)) (moment ({ patient with overall := some 2400 }.limit 0)) =
      WithTop.some 2400 := rfl
  have hshort : min (moment (some 700)) (moment ({ patient with overall := some 900 }.limit 0)) =
      WithTop.some 700 := rfl
  have hwhole : (patient.wholeRun wavering 0).finish = 2340 := rfl
  obtain ⟨hsame, -⟩ := run_interrupted { patient with overall := some 2400 } wavering 0 (some 2500)
  obtain ⟨-, hcut⟩ := run_interrupted { patient with overall := some 900 } wavering 0 (some 700)
  obtain ⟨hfinish, hbegun, hresult⟩ := hcut 700 hshort (by decide)
  have hbegun : ({ patient with overall := some 900 }.run wavering 0 (some 700)).begun =
      [⟨1, 0⟩, ⟨2, 140⟩] := hbegun
  refine ⟨hwhole, ⟨hlong, hsame ?_⟩, hshort, hfinish, hbegun, ?_⟩
  · rw [hlong]
    exact WithTop.coe_lt_coe.mpr (by decide)
  · rw [hresult, hbegun]
    rfl

end Policy

end FleetControl.Retry
