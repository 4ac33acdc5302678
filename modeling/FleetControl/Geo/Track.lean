import FleetControl.Geo.Point

namespace FleetControl.Geo

structure Sample where
  location : Point
  time : Instant
  /-- Ground speed in metres a second. -/
  speed : Option Float
  heading : Option Float
  accuracy : Option Float
deriving DecidableEq

inductive Sample.Problem where
  | coordinates (longitude latitude : Float)
  | speed (x : Float)
  | heading (x : Float)
  | accuracy (x : Float)
deriving DecidableEq

def Sample.Problem.message : Sample.Problem → String
  | .coordinates longitude latitude =>
    "coordinates (" ++ Decimal.sentence longitude ++ ", " ++ Decimal.sentence latitude
      ++ ") out of range"
  | .speed x => "speed " ++ Decimal.sentence x ++ " must be >= 0"
  | .heading x => "heading " ++ Decimal.sentence x ++ " must be in [0, 360)"
  | .accuracy x => "accuracy " ++ Decimal.sentence x ++ " must be >= 0"

namespace Sample

def of (location : Point) (time : Instant) : Sample := ⟨location, time, none, none, none⟩

def withSpeed (s : Sample) (speed : Float) : Sample := { s with speed := some speed }

def isSize (x : Float) : Bool :=
  x.isFinite && !(x < 0.0)

def isHeading (x : Float) : Bool :=
  0.0 ≤ x && x < 360.0

/-- The first field that is out of range: coordinates, speed, heading, accuracy. -/
def problem? (s : Sample) : Option Problem :=
  if !s.location.isValid then some (.coordinates s.location.longitude s.location.latitude)
  else
    let bad (p : Float → Bool) (x : Option Float) := x.filter fun x => !p x
    ((bad isSize s.speed).map .speed).or
      (((bad isHeading s.heading).map .heading).or ((bad isSize s.accuracy).map .accuracy))

def ownRecord : Json.Record (Point → Sample) :=
  (fun time speed heading accuracy location => Sample.mk location time speed heading accuracy)
    <$> .required "timestamp" .instant <*> .perhaps "speed" .double <*> .perhaps "heading" .double
    <*> .perhaps "accuracy" .double

def reader : Json.Reader Sample :=
  ownRecord.readerWith "struct TrajectoryPoint" (Point.record.readEntries .aside none)
    fun sample location => sample location

def toJson (s : Sample) : Json :=
  .ofEntries (s.location.entries ++ [("timestamp", .text s.time.render)]
    ++ Json.entry? "speed" .double s.speed ++ Json.entry? "heading" .double s.heading
    ++ Json.entry? "accuracy" .double s.accuracy)

end Sample

/-- At least one sample, all in range and in time order. -/
structure Track where
  entity : String
  first : Sample
  rest : List Sample
deriving DecidableEq

namespace Track

inductive Error where
  | empty
  | outOfRange (index : Nat) (problem : Sample.Problem)
  | backwards (index : Nat)
deriving DecidableEq

def Error.message : Error → String
  | .empty => "trajectory must contain at least one point"
  | .outOfRange i p => "point " ++ toString i ++ " is invalid: " ++ p.message
  | .backwards i => "timestamps decrease at point " ++ toString i

def firstProblem (i : Nat) : List Sample → Option (Nat × Sample.Problem)
  | [] => none
  | s :: rest =>
    match s.problem? with
    | some p => some (i, p)
    | none => firstProblem (i + 1) rest

def firstBackwards (i : Nat) (previous : Sample) : List Sample → Option Nat
  | [] => none
  | s :: rest =>
    if s.time.before previous.time then some i else firstBackwards (i + 1) s rest

/-- The track of an entity, when there is a sample, all are in range and none comes before the one
it follows. -/
def ofSamples (entity : String) : List Sample → Except Error Track
  | [] => .error .empty
  | first :: rest =>
    match firstProblem 0 (first :: rest) with
    | some (i, p) => .error (.outOfRange i p)
    | none =>
      match firstBackwards 1 first rest with
      | some i => .error (.backwards i)
      | none => .ok ⟨entity, first, rest⟩

def samples (t : Track) : List Sample := t.first :: t.rest

def start (t : Track) : Instant := t.first.time

def finish (t : Track) : Instant := (t.rest.getLast?.getD t.first).time

def toJson (t : Track) : Json :=
  .ofEntries [("entity_id", .text t.entity), ("points", .list (t.samples.map Sample.toJson))]

end Track

end FleetControl.Geo
