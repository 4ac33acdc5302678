import FleetControl.Proofs.Query.Parts
import FleetControl.Proofs.Query.Polygon
import FleetControl.Proofs.Transit.Queries
import Mathlib

namespace FleetControl.Query

open Position (OnGlobe Differs)

namespace Position

variable {a b : Position}

theorem OnGlobe.finite (h : a.OnGlobe) : a.Finite := ⟨h.1.1, h.2.1⟩

theorem differs_of_longitude (h : a.longitude < b.longitude) : a.Differs b :=
  fun hsame ↦ Double.not_beq_of_lt h (same_iff.mp hsame).1

theorem differs_of_latitude (h : a.latitude < b.latitude) : a.Differs b :=
  fun hsame ↦ Double.not_beq_of_lt h (same_iff.mp hsame).2

end Position

namespace Geometry

variable {part : Part} {p low high center : Position} {ring : List Position}
  {rings : List (List Position)} {radius : Float} {g : Geometry}

theorem checkPosition_ok_iff : checkPosition part p = .ok () ↔ p.OnGlobe := by
  rcases checkPosition_cases part p with ⟨hp, hcheck⟩ | ⟨e, he, hcheck⟩
  · simp only [hcheck, hp]
  · have hout : ¬ p.OnGlobe := fun hp ↦ onGlobe_iff.mp hp e he
    simp only [hcheck, reduceCtorEq, hout]

theorem check_polygon_iff :
    (polygon rings).check = .ok () ↔ rings ≠ [] ∧ ∀ ring ∈ rings, Sound ring := by
  cases rings with
  | nil => simp [check]
  | cons ring rings =>
    rw [and_iff_right (List.cons_ne_nil ring rings)]
    exact checkRings_ok_iff

theorem onGlobe_of_check_circle (h : (circle center radius).check = .ok ()) : center.OnGlobe := by
  rw [check] at h
  cases hc : checkPosition .center center with
  | error e => rw [hc] at h; cases h
  | ok => exact checkPosition_ok_iff.mp hc

structure Upright (low high : Position) : Prop where
  onGlobe : low.OnGlobe ∧ high.OnGlobe
  longitude : low.longitude < high.longitude
  latitude : low.latitude < high.latitude

theorem upright_of_check (h : (box low high).check = .ok ()) : Upright low high := by
  rw [check] at h
  cases hlow : checkPosition .low low with
  | error e => rw [hlow] at h; cases h
  | ok =>
    cases hhigh : checkPosition .high high with
    | error e => rw [hlow, hhigh] at h; cases h
    | ok =>
      have hl : low.OnGlobe := checkPosition_ok_iff.mp hlow
      have hh : high.OnGlobe := checkPosition_ok_iff.mp hhigh
      have hlongitude : high.longitude ≤ low.longitude ↔ ¬ low.longitude < high.longitude :=
        (Double.not_lt_iff hl.1.1 hh.1.1).symm
      have hlatitude : high.latitude ≤ low.latitude ↔ ¬ low.latitude < high.latitude :=
        (Double.not_lt_iff hl.2.1 hh.2.1).symm
      simp only [hlow, hhigh, ge_iff_le, Bool.or_eq_true, decide_eq_true_eq, hlongitude,
        hlatitude] at h
      by_cases hbelow : low.longitude < high.longitude ∧ low.latitude < high.latitude
      · exact ⟨⟨hl, hh⟩, hbelow.1, hbelow.2⟩
      · rw [if_pos (not_and_or.mp hbelow)] at h
        cases h

def IsCorner (low high p : Position) : Prop :=
  (p.longitude = low.longitude ∨ p.longitude = high.longitude) ∧
    (p.latitude = low.latitude ∨ p.latitude = high.latitude)

/-- A ring goes once round a box: along its sides through the four corners, which are different from one
another, and back to the first. -/
structure GoesRound (low high : Position) (ring : List Position) : Prop where
  length : ring.length = 5
  closed : ring.head? = ring.getLast?
  mem_iff : ∀ p, p ∈ ring ↔ IsCorner low high p
  differ : ring.dropLast.Pairwise Differs
  sides : ring.IsChain fun p q ↦ p.longitude = q.longitude ∨ p.latitude = q.latitude

theorem IsCorner.onGlobe (h : IsCorner low high p) (hu : Upright low high) : p.OnGlobe := by
  obtain ⟨⟨hlx, hly⟩, hhx, hhy⟩ := hu.onGlobe
  obtain ⟨hx, hy⟩ := h
  constructor
  · rcases hx with hx | hx <;> rwa [hx]
  · rcases hy with hy | hy <;> rwa [hy]

theorem goesRound_boxRing (hu : Upright low high) : GoesRound low high (boxRing low high) where
  length := rfl
  closed := rfl
  mem_iff p := by
    obtain ⟨x, y⟩ := p
    obtain ⟨west, south⟩ := low
    obtain ⟨east, north⟩ := high
    simp only [boxRing, List.mem_cons, Position.mk.injEq, List.not_mem_nil, or_false, IsCorner]
    tauto
  differ := by
    have hx (y y' : Float) : Differs ⟨low.longitude, y⟩ ⟨high.longitude, y'⟩ :=
      Position.differs_of_longitude hu.longitude
    have hy (x x' : Float) : Differs ⟨x, low.latitude⟩ ⟨x', high.latitude⟩ :=
      Position.differs_of_latitude hu.latitude
    simp only [boxRing, List.dropLast, List.pairwise_cons, List.forall_mem_cons]
    exact ⟨⟨hx _ _, hx _ _, hy _ _, List.forall_mem_nil _⟩,
      ⟨hy _ _, (hx _ _).symm, List.forall_mem_nil _⟩, ⟨(hx _ _).symm, List.forall_mem_nil _⟩,
      List.forall_mem_nil _, .nil⟩
  sides := by
    simp [boxRing]

theorem GoesRound.closes (h : GoesRound low high ring) (hu : Upright low high) : Closed ring := by
  have hne : ring ≠ [] := List.ne_nil_of_length_pos (h.length ▸ by decide)
  obtain ⟨first, rest, rfl⟩ := List.exists_cons_of_ne_nil hne
  have hfirst : first.OnGlobe := ((h.mem_iff first).mp List.mem_cons_self).onGlobe hu
  exact ⟨first, first, rfl, h.closed.symm, Position.same_self hfirst⟩

theorem GoesRound.threeDiffer (h : GoesRound low high ring) : ThreeDiffer ring := by
  have hlength : ring.dropLast.length = 4 := by rw [List.length_dropLast, h.length]
  have hmem (v : Position) (hv : v ∈ ring.dropLast) : v ∈ ring := List.mem_of_mem_dropLast hv
  match hcorners : ring.dropLast, hlength, h.differ with
  | a :: b :: c :: rest, _, hdiffer =>
    rw [hcorners] at hmem
    simp only [List.pairwise_cons, List.forall_mem_cons] at hdiffer hmem
    obtain ⟨⟨hab, hac, -⟩, ⟨hbc, -⟩, -⟩ := hdiffer
    obtain ⟨ha, hb, hc, -⟩ := hmem
    exact ⟨a, ha, b, hb, c, hc, hab, hac, hbc⟩

theorem GoesRound.sound (h : GoesRound low high ring) (hu : Upright low high) : Sound ring where
  onGlobe p hp := ((h.mem_iff p).mp hp).onGlobe hu
  enough := h.length ▸ (by decide)
  closed := h.closes hu
  spread := h.threeDiffer

/-- What a search area is after it was sent. -/
inductive SentAs : Geometry → Geometry → Prop where
  | point (p : Position) : SentAs (.point p) (.point p)
  | polygon (rings : List (List Position)) : SentAs (.polygon rings) (.polygon rings)
  | circle (center : Position) (radius : Float) : SentAs (.circle center radius) (.point center)
  | box {low high : Position} {ring : List Position} : Upright low high → GoesRound low high ring →
      SentAs (.box low high) (.polygon [ring])

inductive Faultless : Geometry → Prop where
  | point {p : Position} : p.OnGlobe → Faultless (.point p)
  | polygon {rings : List (List Position)} : rings ≠ [] → (∀ ring ∈ rings, Sound ring) →
      Faultless (.polygon rings)

theorem Faultless.check (h : Faultless g) : g.check = .ok () := by
  cases h with
  | point hp => exact checkPosition_ok_iff.mpr hp
  | polygon hne hsound => exact check_polygon_iff.mpr ⟨hne, hsound⟩

theorem Faultless.takes (h : Faultless g) : reader.Takes g.toGeoJson g := by
  cases h with
  | point hp => exact takes_point hp.finite
  | polygon hne hsound =>
    exact takes_polygon fun ring hring p hp ↦ ((hsound ring hring).onGlobe p hp).finite

theorem Faultless.readText (h : Faultless g) (hs : Transit.Survive g.leaves) :
    Json.readText reader g.toGeoJson.render = .ok g := by
  have hsendable : Json.Sendable 4 g.toGeoJson := by
    cases h <;> exact sendable hs
  exact h.takes.readText (hsendable.mono (by decide))

theorem exists_faultless (h : g.check = .ok ()) :
    ∃ g', Faultless g' ∧ g'.toGeoJson = g.toGeoJson ∧ SentAs g g' := by
  cases g with
  | point p => exact ⟨_, .point (checkPosition_ok_iff.mp h), rfl, .point p⟩
  | polygon rings =>
    obtain ⟨hne, hsound⟩ := check_polygon_iff.mp h
    exact ⟨_, .polygon hne hsound, rfl, .polygon rings⟩
  | circle center radius =>
    exact ⟨_, .point (onGlobe_of_check_circle h), rfl, .circle center radius⟩
  | box low high =>
    have hu := upright_of_check h
    have hround := goesRound_boxRing hu
    exact ⟨_, .polygon (List.cons_ne_nil _ _) (List.forall_mem_singleton.mpr (hround.sound hu)), rfl,
      .box hu hround⟩

end Geometry

def Condition.shape? {α : Type} : Condition α → Option α
  | .near _ shape _ => some shape
  | .touches _ shape => some shape
  | .inside _ shape => some shape
  | .between _ _ _ => none
  | .equals _ _ => none

namespace Description

variable {settings : Settings} {d : Description} {g : Geometry} {s : Statement Bind} {n : ℕ}
  {c : Condition Bind} {v : Bind}

theorem shape?_areaCondition (settings : Settings) (t : Table) (g : Geometry) :
    (areaCondition settings t g).shape? = some (.text g.toGeoJson.render) := by
  by_cases hkind : t.geometryKind = .polygon <;>
    cases g <;> simp [areaCondition, hkind, Condition.shape?]

variable {parts : Parts}

theorem Gives.areaChecked (h : d.Gives settings parts) (hg : d.geometry = some g) : g.check = .ok () := by
  have hplaces := h.places
  rw [geometryCondition, hg] at hplaces
  cases hcheck : g.check with
  | error e => simp [hcheck] at hplaces
  | ok => rfl

theorem Gives.shape (h : d.Gives settings parts) (hc : c ∈ parts.statement.conditions)
    (hv : c.shape? = some v) :
    ∃ g, d.geometry = some g ∧ g.check = .ok () ∧ v = .text g.toGeoJson.render := by
  simp only [Parts.statement, List.mem_append] at hc
  rcases hc with (hc | hc) | hc
  · rw [h.times_eq] at hc
    obtain ⟨r, -, rfl⟩ := List.mem_map.mp hc
    cases hv
  · rw [h.places_eq] at hc
    obtain ⟨g, hg, rfl⟩ := List.mem_map.mp hc
    have hg := Option.mem_toList.mp hg
    rw [shape?_areaCondition, Option.some_inj] at hv
    exact ⟨g, hg, h.areaChecked hg, hv.symm⟩
  · rcases h.entities_eq with ⟨-, he⟩ | ⟨entity, column, -, -, he⟩
    · rw [he] at hc
      cases hc
    · rw [he, List.mem_singleton] at hc
      subst hc
      cases hv

theorem shape_of_statement (h : d.statement settings = .ok (s, n)) (hc : c ∈ s.conditions)
    (hv : c.shape? = some v) :
    ∃ g, d.geometry = some g ∧ g.check = .ok () ∧ v = .text g.toGeoJson.render := by
  obtain ⟨parts, hp, hs⟩ := statement_ok.mp h
  cases hs
  exact hp.shape hc hv

end Description

namespace Geometry

/-- An area that passes the check is sent as GeoJSON from which a place or rings are read that pass the
check as well, have no fault, and are the positions of the area; so they are from its text, if their
numbers survive in text. The store makes shapes of nothing else: every shape of a statement is the
GeoJSON of an area that passed the check. -/
theorem sent_as_checked :
    (∀ g : Geometry, g.check = .ok () →
      ∃ g', Json.readValue reader g.toGeoJson = .ok g' ∧ g'.check = .ok () ∧ Faultless g' ∧
        SentAs g g' ∧
        (Transit.Survive g'.leaves → Json.readText reader g.toGeoJson.render = .ok g')) ∧
    ∀ (settings : Settings) (d : Description) (s : Statement Bind) (n : ℕ),
      d.statement settings = .ok (s, n) → ∀ c ∈ s.conditions, ∀ v, c.shape? = some v →
        ∃ g, d.geometry = some g ∧ g.check = .ok () ∧ v = .text g.toGeoJson.render := by
  refine ⟨fun g h ↦ ?_, fun settings d s n h c hc v hv ↦ Description.shape_of_statement h hc hv⟩
  obtain ⟨g', hfaultless, hsame, hsent⟩ := exists_faultless h
  exact ⟨g', hsame ▸ hfaultless.takes.readValue, hfaultless.check, hfaultless, hsent,
    hsame ▸ hfaultless.readText⟩

def harbour : Geometry := .box ⟨1.0, 2.0⟩ ⟨3.0, 4.0⟩

theorem sent_as_checked_harbour : harbour.check = .ok () ∧
    ∃ ring, Json.readValue reader harbour.toGeoJson = .ok (.polygon [ring]) ∧ Sound ring ∧
      GoesRound ⟨1.0, 2.0⟩ ⟨3.0, 4.0⟩ ring := by
  have hcheck : harbour.check = .ok () := by decide +kernel
  obtain ⟨g', hread, -, -, hsent, -⟩ := sent_as_checked.1 harbour hcheck
  refine ⟨hcheck, ?_⟩
  cases hsent with
  | box hu hround => exact ⟨_, hread, hround.sound hu, hround⟩

end Geometry

end FleetControl.Query
