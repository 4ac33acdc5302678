import FleetControl.Geo.Motion

namespace FleetControl.Geo

inductive Fence.Area where
  | polygon (ring : List Point)
  | circle (center : Point) (radius : Float)
deriving DecidableEq

structure Fence where
  id : String
  name : String
  area : Fence.Area
  active : Bool
  created : Instant
  updated : Instant
deriving DecidableEq

namespace Fence

/-- Whether the ray eastward from `p` crosses the edge between `a` and `b`. -/
def crosses (p a b : Point) : Bool :=
  decide (b.latitude > p.latitude) != decide (a.latitude > p.latitude)
    && p.longitude
      < (a.longitude - b.longitude) * (p.latitude - b.latitude) / (a.latitude - b.latitude)
        + b.longitude

/-- Whether the edges of the path from `previous` on are crossed an odd number of times, when
`inside` tells the parity so far. -/
def parityFrom (p : Point) (inside : Bool) (previous : Point) : List Point → Bool
  | [] => inside
  | v :: rest => parityFrom p (if crosses p previous v then !inside else inside) v rest

/-- Whether a ring of vertices holds a position: the ray from it crosses the ring an odd number of
times. A ring of fewer than three vertices holds none. -/
def ringContains (ring : List Point) (p : Point) : Bool :=
  match ring.getLast? with
  | none => false
  | some last => if ring.length < 3 then false else parityFrom p false last ring

def Area.contains (p : Point) : Area → Bool
  | .polygon ring => ringContains ring p
  | .circle center radius => distance center p ≤ radius

def contains (f : Fence) (p : Point) : Bool := f.area.contains p

inductive EventKind where
  | enter
  | exit
  | dwell
deriving DecidableEq

structure Event where
  fence : String
  entity : String
  kind : EventKind
  location : Point
  time : Instant
  inside : Option Float
deriving DecidableEq

/-- A stretch of samples inside, as far as it has gone. It begins with an enter event, has at most one
dwell event and ends with an exit event. -/
structure Visit where
  entered : Sample
  dwelt : Bool

def eventAt (f : Fence) (entity : String) (s : Sample) (kind : EventKind) (inside : Option Float) :
    Event :=
  ⟨f.id, entity, kind, s.location, s.time, inside⟩

/-- The events at one sample, and the visit that goes on after it. -/
def eventsAt (f : Fence) (entity : String) (threshold : Float) (visit : Option Visit) (s : Sample) :
    List Event × Option Visit :=
  let event := f.eventAt entity s
  match f.contains s.location, visit with
  | true, none =>
    if threshold ≤ 0.0 then ([event .enter none, event .dwell (some 0.0)], some ⟨s, true⟩)
    else ([event .enter none], some ⟨s, false⟩)
  | true, some ⟨entered, false⟩ =>
    let seconds := s.time.secondsSince entered.time
    if seconds ≥ threshold then ([event .dwell (some seconds)], some ⟨entered, true⟩)
    else ([], some ⟨entered, false⟩)
  | true, some v => ([], some v)
  | false, some v => ([event .exit (some (s.time.secondsSince v.entered.time))], none)
  | false, none => ([], none)

def eventsFrom (f : Fence) (entity : String) (threshold : Float) :
    Option Visit → List Sample → List Event
  | _, [] => []
  | visit, s :: rest =>
    let (events, visit) := f.eventsAt entity threshold visit s
    events ++ eventsFrom f entity threshold visit rest

def events (f : Fence) (entity : String) (threshold : Float) (samples : List Sample) : List Event :=
  if f.active then f.eventsFrom entity threshold none samples else []

def defaultDwell : Float := 60.0

def Area.reader : Json.Reader Area :=
  .tagged "type" "FenceGeometry"
    [("polygon", (Area.polygon <$> .required "ring" (.list Point.reader) : Json.Record Area).reader
        "struct variant FenceGeometry::Polygon"),
      ("circle",
        (Area.circle <$> .required "center" Point.reader <*> .required "radius_m" .double :
          Json.Record Area).reader "struct variant FenceGeometry::Circle")]

def Area.toJson : Area → Json
  | .polygon ring =>
    .ofEntries [("type", .text "polygon"), ("ring", .list (ring.map Point.toJson))]
  | .circle center radius =>
    .ofEntries
      [("type", .text "circle"), ("center", center.toJson), ("radius_m", .double radius)]

def reader : Json.Reader Fence :=
  (Fence.mk <$> .required "id" .text <*> .required "name" .text
    <*> .required "geometry" Area.reader <*> .required "active" .bool
    <*> .required "created_at" .instant <*> .required "updated_at" .instant :
    Json.Record Fence).reader "struct GeoFence"

def toJson (f : Fence) : Json :=
  .ofEntries
    [("id", .text f.id), ("name", .text f.name), ("geometry", f.area.toJson),
      ("active", .bool f.active), ("created_at", .text f.created.render),
      ("updated_at", .text f.updated.render)]

def EventKind.names : List (String × EventKind) :=
  [("enter", .enter), ("exit", .exit), ("dwell", .dwell)]

def EventKind.name : EventKind → String
  | .enter => "enter"
  | .exit => "exit"
  | .dwell => "dwell"

def Event.reader : Json.Reader Event :=
  (Event.mk <$> .required "fence_id" .text <*> .required "entity_id" .text
    <*> .required "kind" (.variant EventKind.names) <*> .required "location" Point.reader
    <*> .required "timestamp" .instant <*> .perhaps "dwell_seconds" .double :
    Json.Record Event).reader "struct GeoFenceEvent"

def Event.toJson (e : Event) : Json :=
  .ofEntries
    ([("fence_id", .text e.fence), ("entity_id", .text e.entity), ("kind", .text e.kind.name),
      ("location", e.location.toJson), ("timestamp", .text e.time.render)]
      ++ Json.entry? "dwell_seconds" .double e.inside)

end Fence

end FleetControl.Geo
