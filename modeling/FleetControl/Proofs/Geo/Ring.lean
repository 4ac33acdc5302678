import FleetControl.Geo.Fence
import Mathlib.Algebra.Ring.Parity
import Mathlib.Data.List.Rotate

namespace FleetControl.Geo.Fence

def edges (ring : List Point) : List (Point × Point) := ring.zip (ring.rotate 1)

def crossings (p : Point) (ring : List Point) : ℕ := (edges ring).countP fun e ↦ crosses p e.1 e.2

def closed (ring : List Point) : List Point := ring ++ ring.head?.toList

variable {p a b v : Point} {ring l : List Point} {inside : Bool}

theorem crosses_self : crosses p v v = false := by
  simp [crosses]

theorem parityFrom_eq (previous : Point) :
    parityFrom p inside previous l =
      xor inside (decide (Odd (((previous :: l).zip l).countP fun e ↦ crosses p e.1 e.2))) := by
  induction l generalizing inside previous with
  | nil => simp [parityFrom]
  | cons v l ih =>
    rw [parityFrom, ih, List.zip_cons_cons, List.countP_cons]
    cases crosses p previous v with
    | false => simp
    | true => simp [Nat.odd_add_one, -Nat.not_odd_iff_even]

theorem edges_rotate (k : ℕ) : edges (ring.rotate k) = (edges ring).rotate k := by
  have hlength : ring.length = (ring.rotate 1).length := (List.length_rotate ring 1).symm
  have hswap : (ring.rotate k).rotate 1 = (ring.rotate 1).rotate k := by
    rw [List.rotate_rotate, List.rotate_rotate, Nat.add_comm]
  rw [edges, hswap]
  exact (List.zipWith_rotate_distrib Prod.mk ring (ring.rotate 1) k hlength).symm

theorem crossings_rotate (k : ℕ) : crossings p (ring.rotate k) = crossings p ring := by
  unfold crossings
  rw [edges_rotate]
  exact ((edges ring).rotate_perm k).countP_eq _

theorem edges_closed : edges (closed (v :: l)) = edges (v :: l) ++ [(v, v)] := by
  have hlength : (v :: l).length = (l ++ [v]).length := by simp
  have hrotate : (closed (v :: l)).rotate 1 = (l ++ [v]) ++ [v] := by simp [closed]
  have hclosed : closed (v :: l) = (v :: l) ++ [v] := rfl
  rw [edges, hrotate, hclosed, List.zip_append hlength]
  simp [edges]

theorem crossings_closed : crossings p (closed ring) = crossings p ring := by
  cases ring with
  | nil => rfl
  | cons v l =>
    unfold crossings
    rw [edges_closed, List.countP_append]
    simp [crosses_self]

/-- The walk begins with the edge from the last vertex to the first; all in all it goes along the edges
of the ring. -/
theorem countP_walk (init : List Point) (last : Point) :
    ((last :: (init ++ [last])).zip (init ++ [last])).countP (fun e ↦ crosses p e.1 e.2) =
      crossings p (init ++ [last]) := by
  have hlength : (last :: init).length = (init ++ [last]).length := by simp
  have hwalk : (last :: (init ++ [last])).zip (init ++ [last]) = edges (last :: init) := by
    have happend : (last :: init ++ [last]).zip ((init ++ [last]) ++ []) = _ :=
      List.zip_append hlength
    simpa [edges] using happend
  have hring : init ++ [last] = (last :: init).rotate 1 := by simp
  rw [hwalk, hring, crossings_rotate, crossings]

theorem ringContains_eq (h : 3 ≤ ring.length) :
    ringContains ring p = decide (Odd (crossings p ring)) := by
  rcases List.eq_nil_or_concat ring with rfl | ⟨init, last, rfl⟩
  · cases h
  · rw [List.concat_eq_append] at h ⊢
    simp only [ringContains, List.getLast?_concat, if_neg (Nat.not_lt.mpr h)]
    rw [parityFrom_eq, countP_walk, Bool.false_xor]

/-- A polygon holds a position just if the ray crosses an odd number of its edges. Where the ring begins,
and whether its first vertex is repeated at the end, makes no difference. -/
theorem contains_of_crossings (h : 3 ≤ ring.length) (p : Point) :
    ((Area.polygon ring).contains p = true ↔ Odd (crossings p ring)) ∧
      (Area.polygon (closed ring)).contains p = (Area.polygon ring).contains p ∧
      ∀ k, (Area.polygon (ring.rotate k)).contains p = (Area.polygon ring).contains p ∧
        (Area.polygon (closed (ring.rotate k))).contains p = (Area.polygon ring).contains p ∧
        (Area.polygon ((closed ring).rotate k)).contains p = (Area.polygon ring).contains p := by
  have hclosed (l : List Point) (hl : 3 ≤ l.length) : 3 ≤ (closed l).length := by
    unfold closed
    rw [List.length_append]
    omega
  have hcontains (l : List Point) (hl : 3 ≤ l.length) (hcrossings : crossings p l = crossings p ring) :
      (Area.polygon l).contains p = decide (Odd (crossings p ring)) := by
    rw [← hcrossings]
    exact ringContains_eq hl
  have hring := hcontains ring h rfl
  rw [hring]
  refine ⟨decide_eq_true_iff, hcontains _ (hclosed ring h) crossings_closed, fun k ↦ ⟨?_, ?_, ?_⟩⟩
  · exact hcontains _ (by simpa using h) (crossings_rotate k)
  · refine hcontains _ (hclosed _ (by simpa using h)) ?_
    rw [crossings_closed, crossings_rotate]
  · refine hcontains _ (by simpa using hclosed ring h) ?_
    rw [crossings_rotate, crossings_closed]

def arrowhead : List Point := [.of 0.0 0.0, .of 2.0 1.0, .of 0.0 2.0, .of 1.0 1.0]

/-- Two of its vertices lie on the ray. -/
theorem contains_of_crossings_arrowhead :
    3 ≤ arrowhead.length ∧ crossings (.of 1.5 1.0) arrowhead = 1 ∧
      (Area.polygon arrowhead).contains (.of 1.5 1.0) = true ∧
      (Area.polygon (closed (arrowhead.rotate 2))).contains (.of 1.5 1.0) = true := by
  have hlength : 3 ≤ arrowhead.length := by decide
  have hcrossings : crossings (.of 1.5 1.0) arrowhead = 1 := by decide +kernel
  obtain ⟨hparity, -, hrotate⟩ := contains_of_crossings hlength (.of 1.5 1.0)
  have hin : (Area.polygon arrowhead).contains (.of 1.5 1.0) = true := by
    rw [hparity, hcrossings]
    exact odd_one
  exact ⟨hlength, hcrossings, hin, (hrotate 2).2.1.trans hin⟩

end FleetControl.Geo.Fence
