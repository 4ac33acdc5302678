import FleetControl.Proofs.Geo.Ranges
import FleetControl.Query.Geometry
import Mathlib

namespace FleetControl.Query

namespace Position

def OnGlobe (p : Position) : Prop := Geo.IsLongitude p.longitude ∧ Geo.IsLatitude p.latitude

variable {a b c : Position}

theorem same_iff : a.same b = true ↔
    (a.longitude == b.longitude) = true ∧ (a.latitude == b.latitude) = true := by
  rw [same, Bool.and_eq_true]

theorem same_self (h : a.OnGlobe) : a.same a = true := by
  have hself (x : Float) (hx : x.isFinite = true) : (x == x) = true := by
    rw [Float.beq_self_iff]
    rintro rfl
    cases hx
  exact same_iff.mpr ⟨hself _ h.1.1, hself _ h.2.1⟩

theorem same_symm (h : a.same b = true) : b.same a = true := by
  obtain ⟨hx, hy⟩ := same_iff.mp h
  exact same_iff.mpr ⟨BEq.symm hx, BEq.symm hy⟩

theorem same_trans (h : a.same b = true) (h' : b.same c = true) : a.same c = true := by
  obtain ⟨hx, hy⟩ := same_iff.mp h
  obtain ⟨hx', hy'⟩ := same_iff.mp h'
  exact same_iff.mpr ⟨BEq.trans hx hx', BEq.trans hy hy'⟩

def Differs (a b : Position) : Prop := ¬ a.same b = true

theorem Differs.symm (h : a.Differs b) : b.Differs a := mt same_symm h

end Position

open Position (OnGlobe Differs)

namespace Geometry

variable {part : Part} {p : Position} {e : Problem} {ring seen vs ws : List Position} {n : ℕ}

/-- Of all positions of the ring that are the same there is one among `vs`. -/
structure Represents (vs ring : List Position) : Prop where
  mem : ∀ v ∈ vs, v ∈ ring
  differ : vs.Pairwise Differs
  each : ∀ p ∈ ring, ∃ v ∈ vs, v.same p = true

/-- The number of vertices of a ring that are different from one another. -/
def HasVertices (ring : List Position) (n : ℕ) : Prop := ∃ vs, Represents vs ring ∧ vs.length = n

/-- Positions that differ need as many others to be the same as. -/
theorem length_le_of_differ (hdiffer : vs.Pairwise Differs)
    (hsame : ∀ v ∈ vs, ∃ w ∈ ws, w.same v = true) : vs.length ≤ ws.length := by
  induction vs generalizing ws with
  | nil => exact Nat.zero_le _
  | cons v vs ih =>
    obtain ⟨hv, hvs⟩ := List.pairwise_cons.mp hdiffer
    obtain ⟨hsameHead, hsameRest⟩ := List.forall_mem_cons.mp hsame
    obtain ⟨w, hw, hwv⟩ := hsameHead
    -- What the others are the same as is not `w`, for they differ from `v`.
    have hrest : ∀ v' ∈ vs, ∃ w' ∈ ws.erase w, w'.same v' = true := by
      intro v' hv'
      obtain ⟨w', hw', hsame'⟩ := hsameRest v' hv'
      have hne : w' ≠ w := by
        rintro rfl
        exact hv v' hv' (Position.same_trans (Position.same_symm hwv) hsame')
      exact ⟨w', (List.mem_erase_of_ne hne).mpr hw', hsame'⟩
    have hle := ih hvs hrest
    have hlength := List.length_erase_of_mem hw
    have hpos := List.length_pos_of_mem hw
    rw [List.length_cons]
    omega

theorem Represents.length_eq (h : Represents vs ring) (h' : Represents ws ring) :
    vs.length = ws.length :=
  Nat.le_antisymm (length_le_of_differ h.differ fun v hv ↦ h'.each v (h.mem v hv))
    (length_le_of_differ h'.differ fun w hw ↦ h.each w (h'.mem w hw))

/-- The positions of a ring that are counted: they differ from all that are seen and from each other. -/
structure Counted (seen vs ring : List Position) : Prop where
  mem : ∀ v ∈ vs, v ∈ ring
  differ : vs.Pairwise Differs
  fresh : ∀ v ∈ vs, ∀ q ∈ seen, v.Differs q
  each : ∀ p ∈ ring, (∃ q ∈ seen, q.same p = true) ∨ ∃ v ∈ vs, v.same p = true

theorem Counted.passOver {q : Position} (h : Counted (p :: seen) vs ring) (hq : q ∈ seen)
    (hsame : p.same q = true) : Counted seen vs (p :: ring) where
  mem v hv := List.mem_cons_of_mem _ (h.mem v hv)
  differ := h.differ
  fresh v hv q' hq' := h.fresh v hv q' (List.mem_cons_of_mem _ hq')
  each := by
    have hqp : q.same p = true := Position.same_symm hsame
    refine List.forall_mem_cons.mpr ⟨Or.inl ⟨q, hq, hqp⟩, fun p' hp' ↦ ?_⟩
    rcases h.each p' hp' with ⟨q', hq', hsame'⟩ | hv
    · rcases List.mem_cons.mp hq' with rfl | hq'
      · exact Or.inl ⟨q, hq, Position.same_trans hqp hsame'⟩
      · exact Or.inl ⟨q', hq', hsame'⟩
    · exact Or.inr hv

theorem Counted.count (h : Counted (p :: seen) vs ring) (hp : p.OnGlobe)
    (hfirst : ∀ q ∈ seen, p.Differs q) : Counted seen (p :: vs) (p :: ring) where
  mem := List.forall_mem_cons.mpr
    ⟨List.mem_cons_self, fun v hv ↦ List.mem_cons_of_mem _ (h.mem v hv)⟩
  differ := List.pairwise_cons.mpr
    ⟨fun v hv ↦ (h.fresh v hv p List.mem_cons_self).symm, h.differ⟩
  fresh := List.forall_mem_cons.mpr
    ⟨hfirst, fun v hv q hq ↦ h.fresh v hv q (List.mem_cons_of_mem _ hq)⟩
  each := by
    refine List.forall_mem_cons.mpr
      ⟨Or.inr ⟨p, List.mem_cons_self, Position.same_self hp⟩, fun p' hp' ↦ ?_⟩
    rcases h.each p' hp' with ⟨q', hq', hsame⟩ | ⟨v, hv, hsame⟩
    · rcases List.mem_cons.mp hq' with rfl | hq'
      · exact Or.inr ⟨q', List.mem_cons_self, hsame⟩
      · exact Or.inl ⟨q', hq', hsame⟩
    · exact Or.inr ⟨v, List.mem_cons_of_mem _ hv, hsame⟩

theorem exists_counted (hall : ∀ p ∈ ring, p.OnGlobe) :
    ∃ vs, Counted seen vs ring ∧ vs.length = distinctCount seen ring := by
  induction ring generalizing seen with
  | nil => exact ⟨[], ⟨by simp, .nil, by simp, by simp⟩, rfl⟩
  | cons p ring ih =>
    obtain ⟨hp, hring⟩ := List.forall_mem_cons.mp hall
    obtain ⟨vs, hvs, hlength⟩ : ∃ vs, Counted (p :: seen) vs ring ∧ _ := ih hring
    rw [distinctCount, ← hlength]
    cases hany : seen.any p.same with
    | true =>
      obtain ⟨q, hq, hsame⟩ := List.any_eq_true.mp hany
      exact ⟨vs, hvs.passOver hq hsame, (Nat.zero_add _).symm⟩
    | false =>
      have hfirst : ∀ q ∈ seen, p.Differs q := by simpa [Differs] using hany
      exact ⟨p :: vs, hvs.count hp hfirst, Nat.add_comm _ _⟩

def Closed (ring : List Position) : Prop :=
  ∃ first last, ring.head? = some first ∧ ring.getLast? = some last ∧ first.same last = true

theorem isClosed_iff (h : ring ≠ []) : isClosed ring = true ↔ Closed ring := by
  obtain ⟨p, ring, rfl⟩ := List.exists_cons_of_ne_nil h
  simp [isClosed, Closed, List.getLast?_cons]

/-- In a closed ring of two positions and more the last is no vertex of its own. -/
theorem Counted.represents (h : Counted [] vs ring.dropLast) (hclosed : Closed ring)
    (hlength : 1 < ring.length) : Represents vs ring where
  mem v hv := List.mem_of_mem_dropLast (h.mem v hv)
  differ := h.differ
  each := by
    have heach : ∀ q ∈ ring.dropLast, ∃ v ∈ vs, v.same q = true := by
      simpa using h.each
    obtain ⟨first, last, hfirst, hlast, hsame⟩ := hclosed
    have hmem : first ∈ ring.dropLast := by
      refine List.mem_of_mem_head? ?_
      rw [List.head?_dropLast, if_pos hlength, hfirst, Option.mem_some_iff]
    rw [← List.dropLast_append_getLast? last hlast, List.forall_mem_append,
      List.forall_mem_singleton]
    obtain ⟨v, hv, hvfirst⟩ := heach first hmem
    exact ⟨heach, v, hv, Position.same_trans hvfirst hsame⟩

theorem hasVertices_iff (hall : ∀ p ∈ ring, p.OnGlobe) (hclosed : Closed ring)
    (hlength : 1 < ring.length) :
    HasVertices ring n ↔ n = distinctCount [] ring.dropLast := by
  have hinit : ∀ p ∈ ring.dropLast, p.OnGlobe := fun p hp ↦ hall p (List.mem_of_mem_dropLast hp)
  obtain ⟨vs, hcounted, hcount⟩ : ∃ vs, Counted [] vs ring.dropLast ∧ _ := exists_counted hinit
  have hvs := hcounted.represents hclosed hlength
  constructor
  · rintro ⟨ws, hws, rfl⟩
    rw [← hcount, hws.length_eq hvs]
  · rintro rfl
    exact ⟨vs, hvs, hcount⟩

def ThreeDiffer (ring : List Position) : Prop :=
  ∃ a ∈ ring, ∃ b ∈ ring, ∃ c ∈ ring, a.Differs b ∧ a.Differs c ∧ b.Differs c

theorem three_le_iff (h : HasVertices ring n) : 3 ≤ n ↔ ThreeDiffer ring := by
  obtain ⟨vs, hvs, rfl⟩ := h
  constructor
  · intro hlength
    match vs, hvs, hlength with
    | a :: b :: c :: vs, hvs, _ =>
      have hdiffer := hvs.differ
      simp only [List.pairwise_cons, List.forall_mem_cons] at hdiffer
      obtain ⟨⟨hab, hac, -⟩, ⟨hbc, -⟩, -⟩ := hdiffer
      exact ⟨a, hvs.mem a (by simp), b, hvs.mem b (by simp), c, hvs.mem c (by simp), hab, hac, hbc⟩
  · rintro ⟨a, ha, b, hb, c, hc, hab, hac, hbc⟩
    have hdiffer : [a, b, c].Pairwise Differs := by simp [hab, hac, hbc]
    exact length_le_of_differ hdiffer fun v hv ↦ hvs.each v (by
      simp only [List.mem_cons, List.not_mem_nil, or_false] at hv
      rcases hv with rfl | rfl | rfl
      · exact ha
      · exact hb
      · exact hc)

inductive OffGlobe (part : Part) (p : Position) : Problem → Prop where
  | longitude : ¬ Geo.IsLongitude p.longitude → OffGlobe part p (.longitude part p.longitude)
  | latitude : Geo.IsLongitude p.longitude → ¬ Geo.IsLatitude p.latitude →
      OffGlobe part p (.latitude part p.latitude)

theorem OffGlobe.unique {e' : Problem} (h : OffGlobe part p e) (h' : OffGlobe part p e') :
    e = e' := by
  cases h with
  | longitude hout =>
    cases h' with
    | longitude => rfl
    | latitude hx => exact absurd hx hout
  | latitude hx =>
    cases h' with
    | longitude hout => exact absurd hx hout
    | latitude => rfl

theorem onGlobe_iff : p.OnGlobe ↔ ∀ e, ¬ OffGlobe part p e := by
  constructor
  · rintro ⟨hx, hy⟩ e (hout | ⟨-, hout⟩)
    · exact hout hx
    · exact hout hy
  · intro h
    by_contra hout
    by_cases hx : Geo.IsLongitude p.longitude
    · exact h _ (.latitude hx fun hy ↦ hout ⟨hx, hy⟩)
    · exact h _ (.longitude hx)

theorem checkPosition_cases (part : Part) (p : Position) :
    p.OnGlobe ∧ checkPosition part p = .ok () ∨
      ∃ e, OffGlobe part p e ∧ checkPosition part p = .error e := by
  unfold checkPosition
  by_cases hx : Geo.IsLongitude p.longitude
  · by_cases hy : Geo.IsLatitude p.latitude
    · exact Or.inl ⟨⟨hx, hy⟩, by simp [Geo.isLongitude_iff.mpr hx, Geo.isLatitude_iff.mpr hy]⟩
    · refine Or.inr ⟨_, .latitude hx hy, ?_⟩
      simp [Geo.isLongitude_iff.mpr hx, mt Geo.isLatitude_iff.mp hy]
  · exact Or.inr ⟨_, .longitude hx, by simp [mt Geo.isLongitude_iff.mp hx]⟩

theorem judges_checkPositions :
    Judges (OffGlobe part) ring (checkPositions part ring) := by
  induction ring with
  | nil => exact judges_ok ()
  | cons p ring ih =>
    rw [checkPositions]
    rcases checkPosition_cases part p with ⟨hp, hcheck⟩ | ⟨e, he, hcheck⟩
    · rw [hcheck]
      exact ih.cons (onGlobe_iff.mp hp)
    · rw [hcheck]
      exact judges_error he fun _ h' ↦ h'.unique he

theorem checkPositions_ok_iff :
    checkPositions part ring = .ok () ↔ ∀ p ∈ ring, p.OnGlobe := by
  rw [← judges_checkPositions.ok_iff fun _ ↦ onGlobe_iff]
  exact ⟨fun h ↦ ⟨(), h⟩, fun ⟨(), h⟩ ↦ h⟩

structure Sound (ring : List Position) : Prop where
  onGlobe : ∀ p ∈ ring, p.OnGlobe
  enough : 4 ≤ ring.length
  closed : Closed ring
  spread : ThreeDiffer ring

inductive Rule where
  | onGlobe
  | enough
  | closed
  | spread
deriving DecidableEq

def Rule.all : List Rule := [.onGlobe, .enough, .closed, .spread]

inductive Rule.Broken (index : ℕ) (ring : List Position) : Rule → Problem → Prop where
  | onGlobe {e : Problem} : FirstBroken (OffGlobe .polygon) ring e → Broken index ring .onGlobe e
  | enough : ring.length < 4 → Broken index ring .enough (.fewPositions index ring.length)
  | closed : ¬ Closed ring → Broken index ring .closed (.notClosed index)
  | spread {n : ℕ} : HasVertices ring n → n < 3 → Broken index ring .spread (.fewVertices index n)

def Fault (index : ℕ) (ring : List Position) (e : Problem) : Prop :=
  FirstBroken (Rule.Broken index ring) Rule.all e

variable {index : ℕ} {rings : List (List Position)}

theorem judges_spread (hall : ∀ p ∈ ring, p.OnGlobe) (henough : 4 ≤ ring.length)
    (hclosed : Closed ring) :
    Judges (Rule.Broken index ring) [.spread]
      (if distinctCount [] ring.dropLast < 3 then
        .error (.fewVertices index (distinctCount [] ring.dropLast)) else .ok ()) := by
  have hvertices {n : ℕ} : HasVertices ring n ↔ n = distinctCount [] ring.dropLast :=
    hasVertices_iff hall hclosed (by omega)
  split
  case isTrue hlt =>
    refine judges_error (.spread (hvertices.mpr rfl) hlt) fun e he ↦ ?_
    cases he with
    | spread hn => rw [hvertices.mp hn]
  case isFalse hlt =>
    refine Judges.cons (fun e he ↦ ?_) (judges_ok ())
    cases he with
    | spread hn hlt' => exact hlt (hvertices.mp hn ▸ hlt')

theorem judges_checkRing : Judges (Rule.Broken index ring) Rule.all (checkRing index ring) := by
  unfold checkRing
  cases hcheck : checkPositions .polygon ring with
  | error e =>
    refine judges_error (.onGlobe ((judges_checkPositions e).mp hcheck)) fun e' he ↦ ?_
    cases he with
    | onGlobe hfirst =>
      have herror := (judges_checkPositions e').mpr hfirst
      exact Except.error.inj (herror.symm.trans hcheck)
  | ok =>
    have hall := checkPositions_ok_iff.mp hcheck
    refine Judges.cons (fun e he ↦ ?_) ?_
    · cases he with
      | onGlobe hfirst =>
        exact not_firstBroken_iff.mpr (fun p hp ↦ onGlobe_iff.mp (hall p hp)) e hfirst
    simp only
    split
    case isTrue hfew => exact judges_error (.enough hfew) fun e he ↦ (by cases he; rfl)
    case isFalse hfew =>
      have henough : 4 ≤ ring.length := Nat.not_lt.mp hfew
      have hne : ring ≠ [] := List.ne_nil_of_length_pos (by omega)
      refine Judges.cons (fun e he ↦ ?_) ?_
      · cases he with
        | enough hlt => exact hfew hlt
      split
      case isTrue hopen =>
        have hnot : ¬ Closed ring := by
          rw [← isClosed_iff hne]
          simpa using hopen
        exact judges_error (.closed hnot) fun e he ↦ (by cases he; rfl)
      case isFalse hopen =>
        have hclosed : Closed ring := by
          rw [← isClosed_iff hne]
          simpa using hopen
        refine Judges.cons (fun e he ↦ ?_) (judges_spread hall henough hclosed)
        cases he with
        | closed hnot => exact hnot hclosed

theorem sound_iff (index : ℕ) : Sound ring ↔ ∀ e, ¬ Fault index ring e := by
  unfold Fault
  rw [not_firstBroken_iff]
  constructor
  · rintro ⟨hall, henough, hclosed, hspread⟩ r - e he
    cases he with
    | onGlobe hfirst =>
      exact not_firstBroken_iff.mpr (fun p hp ↦ onGlobe_iff.mp (hall p hp)) e hfirst
    | enough hlt => omega
    | closed hnot => exact hnot hclosed
    | spread hn hlt => exact Nat.not_lt.mpr ((three_le_iff hn).mpr hspread) hlt
  · intro h
    have hall : ∀ p ∈ ring, p.OnGlobe := by
      have hnone := not_firstBroken_iff.mp fun e hfirst ↦
        h .onGlobe (by decide) e (.onGlobe hfirst)
      exact fun p hp ↦ onGlobe_iff.mpr (hnone p hp)
    have henough : 4 ≤ ring.length := Nat.not_lt.mp fun hlt ↦ h .enough (by decide) _ (.enough hlt)
    have hclosed : Closed ring := by
      by_contra hnot
      exact h .closed (by decide) _ (.closed hnot)
    have hcount := (hasVertices_iff hall hclosed (by omega)).mpr rfl
    have hspread : ThreeDiffer ring := (three_le_iff hcount).mp <| Nat.not_lt.mp fun hlt ↦
      h .spread (by decide) _ (.spread hcount hlt)
    exact ⟨hall, henough, hclosed, hspread⟩

theorem checkRing_cases (index : ℕ) (ring : List Position) :
    Sound ring ∧ checkRing index ring = .ok () ∨
      ∃ e, Fault index ring e ∧ checkRing index ring = .error e := by
  cases hcheck : checkRing index ring with
  | error e => exact Or.inr ⟨e, (judges_checkRing e).mp hcheck, rfl⟩
  | ok =>
    refine Or.inl ⟨(sound_iff index).mpr fun e he ↦ ?_, rfl⟩
    have herror := (judges_checkRing e).mpr he
    rw [hcheck] at herror
    cases herror

theorem checkRings_error_iff : checkRings index rings = .error e ↔
    ∃ earlier ring later, rings = earlier ++ ring :: later ∧ (∀ r ∈ earlier, Sound r) ∧
      Fault (index + earlier.length) ring e := by
  induction rings generalizing index with
  | nil => simp [checkRings]
  | cons ring rings ih =>
    have hlater (k : ℕ) : index + 1 + k = index + (k + 1) := by omega
    rw [checkRings, exists_split_cons]
    simp only [List.forall_mem_cons, List.length_cons, List.length_nil, Nat.add_zero,
      and_iff_right (List.forall_mem_nil _)]
    rcases checkRing_cases index ring with ⟨hsound, hcheck⟩ | ⟨e', he', hcheck⟩
    · have hno : ¬ Fault index ring e := (sound_iff index).mp hsound e
      simp only [hcheck, ih, hlater, hno, hsound, false_or, true_and]
    · have hnot : ¬ Sound ring := fun hsound ↦ (sound_iff index).mp hsound e' he'
      have hfault : checkRing index ring = .error e ↔ Fault index ring e := judges_checkRing e
      rw [hcheck] at hfault
      simp only [hcheck, hfault, hnot, false_and, and_false, exists_false, or_false]

theorem checkRings_ok_iff : checkRings index rings = .ok () ↔ ∀ ring ∈ rings, Sound ring := by
  induction rings generalizing index with
  | nil => simp [checkRings]
  | cons ring rings ih =>
    rw [checkRings, List.forall_mem_cons]
    rcases checkRing_cases index ring with ⟨hsound, hcheck⟩ | ⟨e, he, hcheck⟩
    · simp only [hcheck, ih, and_iff_right hsound]
    · have hnot : ¬ Sound ring := fun hsound ↦ (sound_iff index).mp hsound e he
      simp [hcheck, hnot]

/-- A polygon may be searched in just if it has a ring and every ring is sound. Otherwise the first ring
that is not sound gives the error, by the first rule that it breaks. -/
theorem polygon_verdict (rings : List (List Position)) :
    ((polygon rings).check = .ok () ↔ rings ≠ [] ∧ ∀ ring ∈ rings, Sound ring) ∧
      ∀ e, (polygon rings).check = .error e ↔
        rings = [] ∧ e = .noRings ∨
          ∃ earlier ring later, rings = earlier ++ ring :: later ∧ (∀ r ∈ earlier, Sound r) ∧
            FirstBroken (Rule.Broken earlier.length ring) Rule.all e := by
  cases rings with
  | nil => simp [check, eq_comm]
  | cons ring rings =>
    have hcheck : (polygon (ring :: rings)).check = checkRings 0 (ring :: rings) := rfl
    constructor
    · rw [hcheck, checkRings_ok_iff, and_iff_right (List.cons_ne_nil ring rings)]
    · intro e
      rw [hcheck, checkRings_error_iff, or_iff_right fun h ↦ List.cons_ne_nil ring rings h.1]
      simp only [Nat.zero_add, Fault]

end Geometry

end FleetControl.Query
