import FleetControl.Query.Description
import FleetControl.Query.Schema

namespace FleetControl.Query

inductive Condition (α : Type) where
  | between (column : String) (low high : α)
  | near (column : String) (shape distance : α)
  | touches (column : String) (shape : α)
  | inside (column : String) (shape : α)
  | equals (column : String) (value : α)

/-- A statement that selects rows, with values of type `α`. The text shows each value as a numbered
placeholder, so it depends on where values stand and never on what they are. -/
structure Statement (α : Type) where
  columns : List Column
  table : String
  conditions : List (Condition α)
  ordering : List Ordering
  limit : α

namespace Condition

def values {α : Type} : Condition α → List α
  | .between _ low high => [low, high]
  | .near _ shape distance => [shape, distance]
  | .touches _ shape => [shape]
  | .inside _ shape => [shape]
  | .equals _ value => [value]

def placeholder (n : Nat) : String := "$" ++ toString n

def shapeText (n : Nat) : String :=
  "ST_SetSRID(ST_GeomFromGeoJSON(" ++ placeholder n ++ "), 4326)"

def text {α : Type} (n : Nat) : Condition α → String
  | .between column _ _ => column ++ " BETWEEN " ++ placeholder n ++ " AND " ++ placeholder (n + 1)
  | .near column _ _ =>
    "ST_DWithin(" ++ column ++ "::geography, " ++ shapeText n ++ "::geography, "
      ++ placeholder (n + 1) ++ ")"
  | .touches column _ => "ST_Intersects(" ++ column ++ ", " ++ shapeText n ++ ")"
  | .inside column _ => "ST_Within(" ++ column ++ ", " ++ shapeText n ++ ")"
  | .equals column _ => column ++ " = " ++ placeholder n

def texts {α : Type} (n : Nat) : List (Condition α) → List String
  | [] => []
  | c :: rest => c.text n :: texts (n + c.values.length) rest

end Condition

def Column.item (c : Column) : String :=
  if c.kind.isGeometry then "ST_AsGeoJSON(" ++ c.name ++ ")::jsonb AS " ++ c.name else c.name

def Direction.keyword : Direction → String
  | .ascending => "ASC"
  | .descending => "DESC"

def Ordering.text (o : Ordering) : String :=
  o.column ++ " " ++ o.direction.keyword

namespace Statement

def conditionValues {α : Type} (s : Statement α) : List α :=
  s.conditions.flatMap Condition.values

def values {α : Type} (s : Statement α) : List α :=
  s.conditionValues ++ [s.limit]

def whereText {α : Type} (s : Statement α) : String :=
  if s.conditions.isEmpty then ""
  else " WHERE " ++ " AND ".intercalate (Condition.texts 1 s.conditions)

def orderText {α : Type} (s : Statement α) : String :=
  if s.ordering.isEmpty then "" else " ORDER BY " ++ ", ".intercalate (s.ordering.map Ordering.text)

def text {α : Type} (s : Statement α) : String :=
  "SELECT " ++ ", ".intercalate (s.columns.map Column.item) ++ " FROM " ++ s.table
    ++ s.whereText ++ s.orderText
    ++ " LIMIT " ++ Condition.placeholder (s.conditionValues.length + 1)

end Statement

end FleetControl.Query
