import FleetControl.Query.Compile

namespace FleetControl.Query

abbrev Binding := StateT (List Bind) (Except CompileError)

/-- Binds a value and hands out its placeholder. -/
def bindNext (b : Bind) : Binding String := do
  modify (· ++ [b])
  return "$" ++ toString (← get).length

namespace Description

def rangeClause (t : Table) (d : Description) : Binding (List String) :=
  match d.range with
  | none => return []
  | some r => do
    if r.finish.before r.start then throw (.backwards r)
    let start ← bindNext (.instant r.start)
    let finish ← bindNext (.instant r.finish)
    return [t.timestamp ++ " BETWEEN " ++ start ++ " AND " ++ finish]

def areaClause (settings : Settings) (t : Table) (g : Geometry) : Binding String := do
  let placeholder ← bindNext (.text g.toGeoJson.render)
  let shape := "ST_SetSRID(ST_GeomFromGeoJSON(" ++ placeholder ++ "), 4326)"
  match g with
  | .point _ =>
    let distance ← bindNext (.double settings.pointRadius)
    return "ST_DWithin(" ++ t.geometry ++ "::geography, " ++ shape ++ "::geography, " ++ distance ++ ")"
  | .circle _ radius =>
    let distance ← bindNext (.double radius)
    return "ST_DWithin(" ++ t.geometry ++ "::geography, " ++ shape ++ "::geography, " ++ distance ++ ")"
  | .polygon _ | .box _ _ =>
    if t.geometryKind = .polygon then return "ST_Intersects(" ++ t.geometry ++ ", " ++ shape ++ ")"
    else return "ST_Within(" ++ t.geometry ++ ", " ++ shape ++ ")"

def geometryClause (settings : Settings) (t : Table) (d : Description) : Binding (List String) :=
  match d.geometry with
  | none => return []
  | some g => do
    match g.check with
    | .error p => throw (.geometry p)
    | .ok _ => pure ()
    if !g.fits d.kind then throw (.wrongGeometry d.kind)
    return [← areaClause settings t g]

def entityClause (t : Table) (d : Description) : Binding (List String) :=
  match d.entity with
  | none => return []
  | some entity => do
    let column ←
      match t.entity with
      | none => throw (.noEntity t.name)
      | some column => pure column
    return [column ++ " = " ++ (← bindNext (.text entity))]

def selection (t : Table) (columns : List Column) (predicates : List String)
    (ordering : List Ordering) : String :=
  let statement := "SELECT " ++ ", ".intercalate (columns.map Column.item) ++ " FROM " ++ t.name
  let statement :=
    if predicates.isEmpty then statement
    else statement ++ " WHERE " ++ " AND ".intercalate predicates
  if ordering.isEmpty then statement
  else statement ++ " ORDER BY " ++ ", ".intercalate (ordering.map Ordering.text)

def assemble (settings : Settings) (d : Description) : Binding Compiled := do
  let t ←
    match Table.find? d.table with
    | none => throw (.refused (.table d.table))
    | some t => pure t
  let times ← d.rangeClause t
  let places ← d.geometryClause settings t
  let entities ← d.entityClause t
  let columns ← d.selected t
  let ordering ← d.orderings t
  let limit ← d.rowLimit settings
  let statement := selection t columns (times ++ places ++ entities) ordering
  let placeholder ← bindNext (.int limit)
  return ⟨t.name, statement ++ " LIMIT " ++ placeholder, ← get, columns, limit⟩

end Description

end FleetControl.Query
