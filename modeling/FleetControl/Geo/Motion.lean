import FleetControl.Geo.Track

namespace FleetControl.Geo

def legs : List Sample → List Float
  | a :: b :: rest => distance a.location b.location :: legs (b :: rest)
  | _ => []

def pathLength (samples : List Sample) : Float :=
  (legs samples).foldl (· + ·) 0.0

def duration (samples : List Sample) : Float :=
  match samples.head?, samples.getLast? with
  | some first, some last => last.time.secondsSince first.time
  | _, _ => 0.0

/-- The length of the path over the time it took, zero where no time passed. -/
def averageSpeed (samples : List Sample) : Float :=
  if samples.length < 2 then 0.0
  else
    let elapsed := duration samples
    if elapsed ≤ 0.0 then 0.0 else pathLength samples / elapsed

def faster (a b : Float) : Float :=
  if a < b then b else a

def maxSpeed (samples : List Sample) : Option Float :=
  match samples.filterMap Sample.speed with
  | [] => none
  | first :: rest => some (rest.foldl faster first)

structure Stop where
  startIndex : Nat
  endIndex : Nat
  startTime : Instant
  endTime : Instant
  seconds : Float
  location : Point
deriving DecidableEq

structure Stretch where
  startIndex : Nat
  endIndex : Nat
  first : Sample
  last : Sample

def Stretch.close (minimum : Float) (s : Stretch) : List Stop :=
  let seconds := s.last.time.secondsSince s.first.time
  if seconds ≥ minimum then
    [⟨s.startIndex, s.endIndex, s.first.time, s.last.time, seconds, s.first.location⟩]
  else []

/-- Whether a sample counts as standing still; without a speed it does from zero on. -/
def Sample.isStopped (threshold : Float) (s : Sample) : Bool :=
  s.speed.getD 0.0 ≤ threshold

/-- The stops from the sample of index `i` on, given the stretch that is open before it. -/
def stopsFrom (threshold minimum : Float) (i : Nat) :
    Option Stretch → List Sample → List Stop
  | none, [] => []
  | some open', [] => open'.close minimum
  | none, s :: rest =>
    if s.isStopped threshold then stopsFrom threshold minimum (i + 1) (some ⟨i, i, s, s⟩) rest
    else stopsFrom threshold minimum (i + 1) none rest
  | some open', s :: rest =>
    if s.isStopped threshold then
      stopsFrom threshold minimum (i + 1) (some { open' with endIndex := i, last := s }) rest
    else open'.close minimum ++ stopsFrom threshold minimum (i + 1) none rest

def stops (threshold minimum : Float) (samples : List Sample) : List Stop :=
  stopsFrom threshold minimum 0 none samples

def stopStarts (threshold minimum : Float) (samples : List Sample) : List Nat :=
  (stops threshold minimum samples).map Stop.startIndex

structure Summary where
  count : Nat
  length : Float
  seconds : Float
  averageSpeed : Float
  maxSpeed : Option Float
  stops : List Stop

/-- The summary of the samples; time that runs backwards counts as none. -/
def summarize (threshold minimum : Float) (samples : List Sample) : Summary where
  count := samples.length
  length := pathLength samples
  seconds := faster (duration samples) 0.0
  averageSpeed := averageSpeed samples
  maxSpeed := maxSpeed samples
  stops := stops threshold minimum samples

def Stop.toJson (s : Stop) : Json :=
  .ofEntries
    [("start_index", .nat s.startIndex), ("end_index", .nat s.endIndex),
      ("start_time", .text s.startTime.render), ("end_time", .text s.endTime.render),
      ("duration_s", .double s.seconds), ("location", s.location.toJson)]

def Summary.toJson (s : Summary) : Json :=
  .ofEntries
    [("point_count", .nat s.count), ("distance_m", .double s.length),
      ("duration_s", .double s.seconds), ("average_speed_mps", .double s.averageSpeed),
      ("max_speed_mps", Json.option .double s.maxSpeed),
      ("stops", .list (s.stops.map Stop.toJson))]

def defaultStopSpeed : Float := 0.5

def defaultStopDuration : Float := 60.0

end FleetControl.Geo
