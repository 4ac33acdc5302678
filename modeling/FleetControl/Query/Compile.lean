import FleetControl.Query.Statement

namespace FleetControl.Query

inductive Bind where
  | text (s : String)
  | double (x : Float)
  | int (n : Int)
  | instant (t : Instant)
deriving DecidableEq

structure Settings where
  maxRows : Nat
  /-- The distance in metres within which a row counts as at a point. -/
  pointRadius : Float

def Settings.standard : Settings := ⟨1000, 25.0⟩

def Settings.reader : Json.Reader Settings :=
  (Settings.mk <$> .defaulted "max_rows" .word standard.maxRows
    <*> .defaulted "point_radius_m" .double standard.pointRadius :
    Json.Record Settings).reader "struct QueryConfig"

inductive Refusal where
  | table (name : String)
  | column (table name : String)
  | pattern (name : String)
  | notSelect
deriving DecidableEq

def Refusal.message : Refusal → String
  | .table name => "table '" ++ name ++ "' is not whitelisted"
  | .column place name =>
    "column '" ++ name ++ "' is not whitelisted for table '" ++ place ++ "'"
  | .pattern name => "statement contains forbidden pattern: " ++ name
  | .notSelect => "only SELECT statements are allowed"

inductive CompileError where
  | refused (reason : Refusal)
  | backwards (range : TimeRange)
  | geometry (problem : Geometry.Problem)
  | wrongGeometry (kind : Kind)
  | noEntity (table : String)
  | orderByGeometry (column : String)
  | zeroLimit
deriving DecidableEq

structure Compiled where
  table : String
  statement : String
  binds : List Bind
  columns : List Column
  limit : Nat
deriving DecidableEq

namespace Description

def rangeCondition (t : Table) (d : Description) :
    Except CompileError (List (Condition Bind)) :=
  match d.range with
  | none => .ok []
  | some r =>
    if r.finish.before r.start then .error (.backwards r)
    else .ok [.between t.timestamp (.instant r.start) (.instant r.finish)]

def areaCondition (settings : Settings) (t : Table) (g : Geometry) : Condition Bind :=
  let shape := Bind.text g.toGeoJson.render
  match g with
  | .point _ => .near t.geometry shape (.double settings.pointRadius)
  | .circle _ radius => .near t.geometry shape (.double radius)
  | .polygon _ | .box _ _ =>
    if t.geometryKind = .polygon then .touches t.geometry shape else .inside t.geometry shape

def geometryCondition (settings : Settings) (t : Table) (d : Description) :
    Except CompileError (List (Condition Bind)) :=
  match d.geometry with
  | none => .ok []
  | some g =>
    match g.check with
    | .error p => .error (.geometry p)
    | .ok _ =>
      if g.fits d.kind then .ok [areaCondition settings t g] else .error (.wrongGeometry d.kind)

def entityCondition (t : Table) (d : Description) : Except CompileError (List (Condition Bind)) :=
  match d.entity with
  | none => .ok []
  | some entity =>
    match t.entity with
    | none => .error (.noEntity t.name)
    | some column => .ok [.equals column (.text entity)]

def columnsOf (t : Table) : List String → Except CompileError (List Column)
  | [] => .ok []
  | name :: rest =>
    match t.column? name with
    | none => .error (.refused (.column t.name name))
    | some c => (columnsOf t rest).map (c :: ·)

def selected (t : Table) (d : Description) : Except CompileError (List Column) :=
  match d.fields with
  | none | some [] => .ok t.columns
  | some fields => columnsOf t fields

def orderingsOf (t : Table) : List Ordering → Except CompileError (List Ordering)
  | [] => .ok []
  | o :: rest =>
    match t.column? o.column with
    | none => .error (.refused (.column t.name o.column))
    | some c =>
      if c.kind.isGeometry then .error (.orderByGeometry c.name)
      else (orderingsOf t rest).map (⟨c.name, o.direction⟩ :: ·)

/-- The orderings of the rows: those asked for; else a trajectory goes by time. -/
def orderings (t : Table) (d : Description) : Except CompileError (List Ordering) :=
  match d.ordering with
  | [] => .ok (if d.kind = .trajectory then [⟨t.timestamp, .ascending⟩] else [])
  | asked => orderingsOf t asked

def rowLimit (settings : Settings) (d : Description) : Except CompileError Nat :=
  match d.limit with
  | none => .ok settings.maxRows
  | some 0 => .error .zeroLimit
  | some n => .ok (min n settings.maxRows)

def statement (settings : Settings) (d : Description) :
    Except CompileError (Statement Bind × Nat) := do
  let t ←
    match Table.find? d.table with
    | some t => .ok t
    | none => .error (.refused (.table d.table))
  let times ← rangeCondition t d
  let places ← geometryCondition settings t d
  let entities ← entityCondition t d
  let columns ← selected t d
  let ordering ← orderings t d
  let limit ← rowLimit settings d
  .ok (⟨columns, t.name, times ++ places ++ entities, ordering, .int limit⟩, limit)

/-- The checks come in a fixed order: table, time range, search area, entity, fields, ordering, limit.
The first that fails gives the error. -/
def compile (settings : Settings) (d : Description) : Except CompileError Compiled :=
  match d.statement settings with
  | .error e => .error e
  | .ok (s, limit) => .ok ⟨s.table, s.text, s.values, s.columns, limit⟩

end Description

def Bind.toJson : Bind → Json
  | .text s => .ofEntries [("type", .text "text"), ("value", .text s)]
  | .double x => .ofEntries [("type", .text "float"), ("value", .double x)]
  | .int n => .ofEntries [("type", .text "int"), ("value", .int n)]
  | .instant t => .ofEntries [("type", .text "timestamp"), ("value", .text t.render)]

def Column.toJson (c : Column) : Json :=
  .ofEntries [("name", .text c.name), ("kind", .text c.kind.name)]

def Compiled.toJson (q : Compiled) : Json :=
  .ofEntries
    [("table", .text q.table), ("statement", .text q.statement),
      ("binds", .list (q.binds.map Bind.toJson)), ("columns", .list (q.columns.map Column.toJson)),
      ("limit", .nat q.limit)]

end FleetControl.Query
