import FleetControl.Geo.Track
import FleetControl.Proofs.Double.Order
import FleetControl.Proofs.Precedence

namespace FleetControl.Geo

def IsLongitude (x : Float) : Prop := x.isFinite = true ∧ -180.0 ≤ x ∧ x ≤ 180.0

def IsLatitude (x : Float) : Prop := x.isFinite = true ∧ -90.0 ≤ x ∧ x ≤ 90.0

variable {x : Float}

theorem isLongitude_iff : isLongitude x = true ↔ IsLongitude x := within_iff

theorem isLatitude_iff : isLatitude x = true ↔ IsLatitude x := within_iff

namespace Sample

inductive Field where
  | coordinates
  | speed
  | heading
  | accuracy
deriving DecidableEq

def Field.all : List Field := [.coordinates, .speed, .heading, .accuracy]

def IsSize (x : Float) : Prop := x.isFinite = true ∧ 0.0 ≤ x

def IsHeading (x : Float) : Prop := 0.0 ≤ x ∧ x < 360.0

def Field.InRange (s : Sample) : Field → Prop
  | .coordinates => IsLongitude s.location.longitude ∧ IsLatitude s.location.latitude
  | .speed => ∀ x ∈ s.speed, IsSize x
  | .heading => ∀ x ∈ s.heading, IsHeading x
  | .accuracy => ∀ x ∈ s.accuracy, IsSize x

def Field.Broken (s : Sample) : Field → Problem → Prop
  | .coordinates, p =>
    ¬ Field.InRange s .coordinates ∧ .coordinates s.location.longitude s.location.latitude = p
  | .speed, p => ∃ x, s.speed = some x ∧ ¬ IsSize x ∧ .speed x = p
  | .heading, p => ∃ x, s.heading = some x ∧ ¬ IsHeading x ∧ .heading x = p
  | .accuracy, p => ∃ x, s.accuracy = some x ∧ ¬ IsSize x ∧ .accuracy x = p

def InRange (s : Sample) : Prop := ∀ f : Field, f.InRange s

def OutOfRange (s : Sample) (p : Problem) : Prop := FirstBroken (Field.Broken s) Field.all p

variable {s : Sample} {p : Problem}

theorem isSize_iff : isSize x = true ↔ IsSize x := by
  have hzero : (0.0 : Float).isFinite = true := by decide +kernel
  simp only [isSize, IsSize, Bool.and_eq_true, Bool.not_eq_true', decide_eq_false_iff_not]
  exact and_congr_right fun hx ↦ Double.not_lt_iff hx hzero

theorem isHeading_iff : isHeading x = true ↔ IsHeading x := by
  simp [isHeading, IsHeading]

theorem isValid_iff : s.location.isValid = true ↔ Field.InRange s .coordinates := by
  simp only [Point.isValid, Bool.and_eq_true, isLongitude_iff, isLatitude_iff, Field.InRange]

theorem forall_mem_iff {o : Option Float} {ok : Float → Prop} {tell : Float → Problem} :
    (∀ x ∈ o, ok x) ↔ ∀ p, ¬ ∃ x, o = some x ∧ ¬ ok x ∧ tell x = p := by
  constructor
  · rintro h p ⟨x, hx, hout, -⟩
    exact hout (h x hx)
  · intro h x hx
    by_contra hout
    exact h (tell x) ⟨x, hx, hout, rfl⟩

theorem Field.inRange_iff (f : Field) : f.InRange s ↔ ∀ p, ¬ f.Broken s p := by
  cases f with
  | coordinates => simp [Broken]
  | speed => exact forall_mem_iff
  | heading => exact forall_mem_iff
  | accuracy => exact forall_mem_iff

theorem inRange_iff : s.InRange ↔ ∀ p, ¬ s.OutOfRange p := by
  have hall (f : Field) : f ∈ Field.all := by cases f <;> decide
  unfold OutOfRange InRange
  rw [not_firstBroken_iff]
  exact forall_congr' fun f ↦ by rw [forall_prop_of_true (hall f), f.inRange_iff]

/-- A number that may be absent is told of where it is there and does not pass the check. -/
theorem filter_map_eq_some_iff {check : Float → Bool} {ok : Float → Prop} {o : Option Float}
    {tell : Float → Problem} (hcheck : ∀ x, check x = true ↔ ok x) :
    (o.filter fun x ↦ !check x).map tell = some p ↔ ∃ x, o = some x ∧ ¬ ok x ∧ tell x = p := by
  simp [Option.filter_eq_some_iff, ← hcheck, and_assoc]

theorem or_eq_some_iff {f : Field} {fields : List Field} {o o' : Option Problem}
    (h : ∀ p, o = some p ↔ f.Broken s p)
    (h' : ∀ p, o' = some p ↔ FirstBroken (Field.Broken s) fields p) (p : Problem) :
    o.or o' = some p ↔ FirstBroken (Field.Broken s) (f :: fields) p := by
  rw [Option.or_eq_some_iff, firstBroken_cons, h p, h' p, Option.eq_none_iff_forall_ne_some]
  simp only [ne_eq, h]

theorem problem?_eq_some_iff : s.problem? = some p ↔ s.OutOfRange p := by
  have hcoordinates (p : Problem) : (if !s.location.isValid then
      some (.coordinates s.location.longitude s.location.latitude) else none) = some p ↔
        Field.coordinates.Broken s p := by
    simp [Field.Broken, ← isValid_iff]
  have hspeed (p : Problem) : (s.speed.filter fun x ↦ !isSize x).map .speed = some p ↔
      Field.speed.Broken s p := filter_map_eq_some_iff fun _ ↦ isSize_iff
  have hheading (p : Problem) : (s.heading.filter fun x ↦ !isHeading x).map .heading = some p ↔
      Field.heading.Broken s p := filter_map_eq_some_iff fun _ ↦ isHeading_iff
  have haccuracy (p : Problem) : (s.accuracy.filter fun x ↦ !isSize x).map .accuracy = some p ↔
      FirstBroken (Field.Broken s) [.accuracy] p := by
    rw [firstBroken_singleton]
    exact filter_map_eq_some_iff fun _ ↦ isSize_iff
  have hall := or_eq_some_iff hcoordinates (or_eq_some_iff hspeed (or_eq_some_iff hheading haccuracy)) p
  rw [OutOfRange, Field.all, ← hall]
  unfold problem?
  cases s.location.isValid <;> rfl

end Sample

end FleetControl.Geo
