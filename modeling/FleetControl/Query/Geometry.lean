import FleetControl.Geo.Point

namespace FleetControl.Query

structure Position where
  longitude : Float
  latitude : Float
deriving DecidableEq

def Position.same (a b : Position) : Bool :=
  a.longitude == b.longitude && a.latitude == b.latitude

inductive Geometry where
  | point (position : Position)
  /-- The outer ring first, holes after it. -/
  | polygon (rings : List (List Position))
  /-- The radius is in metres. -/
  | circle (center : Position) (radius : Float)
  /-- The corners with the least and with the greatest coordinates. -/
  | box (low high : Position)
deriving DecidableEq

namespace Geometry

inductive Part where
  | point
  | polygon
  | center
  | low
  | high
deriving DecidableEq

def Part.words : Part → String
  | .point => "point"
  | .polygon => "polygon"
  | .center => "circle center"
  | .low => "bbox min"
  | .high => "bbox max"

inductive Problem where
  | longitude (part : Part) (x : Float)
  | latitude (part : Part) (x : Float)
  | noRings
  | fewPositions (ring count : Nat)
  | notClosed (ring : Nat)
  | fewVertices (ring count : Nat)
  | radius (x : Float)
  | corners (low high : Position)
deriving DecidableEq

def pairText (p : Position) : String :=
  "(" ++ Decimal.sentence p.longitude ++ ", " ++ Decimal.sentence p.latitude ++ ")"

def Problem.message : Problem → String
  | .longitude part x =>
    part.words ++ " longitude " ++ Decimal.sentence x ++ " is outside [-180, 180]"
  | .latitude part x =>
    part.words ++ " latitude " ++ Decimal.sentence x ++ " is outside [-90, 90]"
  | .noRings => "polygon has no rings"
  | .fewPositions i n =>
    "polygon ring " ++ toString i ++ " needs at least 4 positions, got " ++ toString n
  | .notClosed i => "polygon ring " ++ toString i ++ " is not closed"
  | .fewVertices i n =>
    "polygon ring " ++ toString i ++ " has only " ++ toString n ++ " distinct vertices"
  | .radius x => "circle radius must be positive, got " ++ Decimal.sentence x
  | .corners low high =>
    "bbox min " ++ pairText low ++ " must be below max " ++ pairText high

def checkPosition (part : Part) (p : Position) : Except Problem Unit :=
  if !Geo.isLongitude p.longitude then .error (.longitude part p.longitude)
  else if !Geo.isLatitude p.latitude then .error (.latitude part p.latitude)
  else .ok ()

def checkPositions (part : Part) : List Position → Except Problem Unit
  | [] => .ok ()
  | p :: rest =>
    match checkPosition part p with
    | .error e => .error e
    | .ok _ => checkPositions part rest

/-- The count of positions that differ from all before them, of which `seen` are some. -/
def distinctCount (seen : List Position) : List Position → Nat
  | [] => 0
  | p :: rest =>
    (if seen.any p.same then 0 else 1) + distinctCount (p :: seen) rest

def isClosed (ring : List Position) : Bool :=
  match ring.head?, ring.getLast? with
  | some first, some last => first.same last
  | _, _ => true

/-- The problem of a ring: positions, their count, the closing, the count of vertices. -/
def checkRing (index : Nat) (ring : List Position) : Except Problem Unit :=
  match checkPositions .polygon ring with
  | .error e => .error e
  | .ok _ =>
    if ring.length < 4 then .error (.fewPositions index ring.length)
    else if !isClosed ring then .error (.notClosed index)
    else
      let count := distinctCount [] ring.dropLast
      if count < 3 then .error (.fewVertices index count) else .ok ()

def checkRings (index : Nat) : List (List Position) → Except Problem Unit
  | [] => .ok ()
  | ring :: rest =>
    match checkRing index ring with
    | .error e => .error e
    | .ok _ => checkRings (index + 1) rest

def check : Geometry → Except Problem Unit
  | .point p => checkPosition .point p
  | .polygon rings => if rings.isEmpty then .error .noRings else checkRings 0 rings
  | .circle center radius =>
    match checkPosition .center center with
    | .error e => .error e
    | .ok _ => if !radius.isFinite || radius ≤ 0.0 then .error (.radius radius) else .ok ()
  | .box low high =>
    match checkPosition .low low with
    | .error e => .error e
    | .ok _ =>
      match checkPosition .high high with
      | .error e => .error e
      | .ok _ =>
        if low.longitude ≥ high.longitude || low.latitude ≥ high.latitude then
          .error (.corners low high)
        else .ok ()

def positionJson (p : Position) : Json :=
  .list [.double p.longitude, .double p.latitude]

def ringsJson (rings : List (List Position)) : Json :=
  .list (rings.map fun ring => .list (ring.map positionJson))

def boxRing (low high : Position) : List Position :=
  [low, ⟨high.longitude, low.latitude⟩, high, ⟨low.longitude, high.latitude⟩, low]

/-- The GeoJSON form. A circle is told by its center; its radius goes another way. -/
def toGeoJson : Geometry → Json
  | .point p => .ofEntries [("type", .text "Point"), ("coordinates", positionJson p)]
  | .polygon rings => .ofEntries [("type", .text "Polygon"), ("coordinates", ringsJson rings)]
  | .circle center _ => .ofEntries [("type", .text "Point"), ("coordinates", positionJson center)]
  | .box low high =>
    .ofEntries [("type", .text "Polygon"), ("coordinates", ringsJson [boxRing low high])]

def positionReader : Json.Reader Position := fun source d =>
  match Json.Reader.exactly .double 2 source d with
  | .ok [x, y] => .ok ⟨x, y⟩
  | .ok _ => Json.Reader.mismatch "an array of length 2" d
  | .error e => .error e

def boxReader : Json.Reader Geometry := fun source d =>
  match Json.Reader.exactly .double 4 source d with
  | .ok [a, b, c, d] => .ok (.box ⟨a, b⟩ ⟨c, d⟩)
  | .ok _ => Json.Reader.mismatch "an array of length 4" d
  | .error e => .error e

def reader : Json.Reader Geometry :=
  .tagged "type" "QueryGeometry"
    [("Point",
        (Geometry.point <$> .required "coordinates" positionReader : Json.Record Geometry).reader
          "struct variant QueryGeometry::Point"),
      ("Polygon",
        (Geometry.polygon <$> .required "coordinates" (.list (.list positionReader)) :
          Json.Record Geometry).reader "struct variant QueryGeometry::Polygon"),
      ("Circle",
        (Geometry.circle <$> .required "center" positionReader <*> .required "radius" .double :
          Json.Record Geometry).reader "struct variant QueryGeometry::Circle"),
      ("BBox",
        (Json.Record.required "bbox" boxReader).reader "struct variant QueryGeometry::BBox")]

def toJson : Geometry → Json
  | .point p => .ofEntries [("type", .text "Point"), ("coordinates", positionJson p)]
  | .polygon rings => .ofEntries [("type", .text "Polygon"), ("coordinates", ringsJson rings)]
  | .circle center radius =>
    .ofEntries
      [("type", .text "Circle"), ("center", positionJson center), ("radius", .double radius)]
  | .box low high =>
    .ofEntries
      [("type", .text "BBox"),
        ("bbox", .list ([low.longitude, low.latitude, high.longitude, high.latitude].map .double))]

end Geometry

end FleetControl.Query
