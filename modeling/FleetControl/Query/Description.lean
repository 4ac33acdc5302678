import FleetControl.Query.Geometry

namespace FleetControl.Query

inductive Kind where
  | point
  | polygon
  | circle
  | box
  | trajectory
deriving DecidableEq

def Kind.name : Kind → String
  | .point => "point"
  | .polygon => "polygon"
  | .circle => "circle"
  | .box => "bbox"
  | .trajectory => "trajectory"

def Kind.title : Kind → String
  | .point => "Point"
  | .polygon => "Polygon"
  | .circle => "Circle"
  | .box => "Bbox"
  | .trajectory => "Trajectory"

def Kind.reader : Json.Reader Kind :=
  .variant ([Kind.point, .polygon, .circle, .box, .trajectory].map fun k => (k.name, k))

def Geometry.fits : Geometry → Kind → Bool
  | _, .trajectory => true
  | .point _, .point => true
  | .polygon _, .polygon => true
  | .circle _ _, .circle => true
  | .box _ _, .box => true
  | _, _ => false

structure TimeRange where
  start : Instant
  finish : Instant
deriving DecidableEq

def TimeRange.reader : Json.Reader TimeRange :=
  (TimeRange.mk <$> .required "start" .instant <*> .required "end" .instant :
    Json.Record TimeRange).reader "struct TimeRange"

def TimeRange.toJson (r : TimeRange) : Json :=
  .ofEntries [("start", .text r.start.render), ("end", .text r.finish.render)]

inductive Direction where
  | ascending
  | descending
deriving DecidableEq, Inhabited

def Direction.name : Direction → String
  | .ascending => "asc"
  | .descending => "desc"

def Direction.reader : Json.Reader Direction :=
  .variant ([Direction.ascending, .descending].map fun d => (d.name, d))

structure Ordering where
  column : String
  direction : Direction
deriving DecidableEq

/-- How an ordering is read; it ascends unless told otherwise. -/
def Ordering.reader : Json.Reader Ordering :=
  (Ordering.mk <$> .required "column" .text <*> .defaulted "direction" Direction.reader .ascending :
    Json.Record Ordering).reader "struct OrderBy"

def Ordering.toJson (o : Ordering) : Json :=
  .ofEntries [("column", .text o.column), ("direction", .text o.direction.name)]

structure Description where
  kind : Kind
  table : String
  range : Option TimeRange
  geometry : Option Geometry
  entity : Option String
  fields : Option (List String)
  ordering : List Ordering
  limit : Option Nat
deriving DecidableEq

namespace Description

def new (kind : Kind) (table : String) : Description :=
  ⟨kind, table, none, none, none, none, [], none⟩

def withRange (d : Description) (r : TimeRange) : Description := { d with range := some r }

def withGeometry (d : Description) (g : Geometry) : Description := { d with geometry := some g }

def withEntity (d : Description) (entity : String) : Description := { d with entity := some entity }

def withFields (d : Description) (fields : List String) : Description :=
  { d with fields := some fields }

def withOrdering (d : Description) (o : Ordering) : Description :=
  { d with ordering := d.ordering ++ [o] }

def withLimit (d : Description) (limit : Nat) : Description := { d with limit := some limit }

def reader : Json.Reader Description :=
  (Description.mk <$> .required "type" Kind.reader <*> .required "table" .text
    <*> .perhaps "time_range" TimeRange.reader <*> .perhaps "geometry" Geometry.reader
    <*> .perhaps "entity_id" .text <*> .perhaps "fields" (.list .text)
    <*> .defaulted "order_by" (.list Ordering.reader) [] <*> .perhaps "limit" .word :
    Json.Record Description).reader "struct SpatialQueryDescription"

def toJson (d : Description) : Json :=
  .ofEntries
    [("type", .text d.kind.name), ("table", .text d.table),
      ("time_range", Json.option TimeRange.toJson d.range),
      ("geometry", Json.option Geometry.toJson d.geometry),
      ("entity_id", Json.option .text d.entity),
      ("fields", Json.option (fun fields => .list (fields.map .text)) d.fields),
      ("order_by", .list (d.ordering.map Ordering.toJson)), ("limit", Json.option .nat d.limit)]

end Description

end FleetControl.Query
