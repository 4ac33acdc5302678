import FleetControl.Json.Draft
import FleetControl.Query.Schema
import FleetControl.Store.Error
import FleetControl.Text.Utf8
import FleetControl.Time.Instant

namespace FleetControl.Store

inductive ColumnType where
  | int4
  | int8
  | float4
  | float8
  | text
  | varchar
  | bpchar
  | name
  | bool
  | timestamptz
  | json
  | jsonb
  | other (name : String)
deriving DecidableEq

namespace ColumnType

def ofName : String → ColumnType
  | "int4" => .int4
  | "int8" => .int8
  | "float4" => .float4
  | "float8" => .float8
  | "text" => .text
  | "varchar" => .varchar
  | "bpchar" => .bpchar
  | "name" => .name
  | "bool" => .bool
  | "timestamptz" => .timestamptz
  | "json" => .json
  | "jsonb" => .jsonb
  | unknown => .other unknown

def title : ColumnType → String
  | .int4 => "INT4"
  | .int8 => "INT8"
  | .float4 => "FLOAT4"
  | .float8 => "FLOAT8"
  | .text => "TEXT"
  | .varchar => "VARCHAR"
  | .bpchar => "CHAR"
  | .name => "NAME"
  | .bool => "BOOL"
  | .timestamptz => "TIMESTAMPTZ"
  | .json => "JSON"
  | .jsonb => "JSONB"
  | .other unknown => String.ofList (unknown.toList.map Char.toUpper)

def isReadAs (t : ColumnType) (kind : Query.ColumnKind) : Bool :=
  match kind with
  | .integer => t == .int4 || t == .int8
  | .float => t == .float8 || t == .float4
  | .text => t == .text || t == .varchar || t == .bpchar || t == .name
  | .boolean => t == .bool
  | .timestamp => t == .timestamptz
  | .json | .point | .polygon => t == .json || t == .jsonb

end ColumnType

/-- What is wanted of a column of a kind: the value, and the type of the column last tried for it. -/
def wanted : Query.ColumnKind → String × String
  | .integer => ("i64", "INT8")
  | .float => ("f32", "FLOAT4")
  | .text => ("alloc::string::String", "TEXT")
  | .boolean => ("bool", "BOOL")
  | .timestamp => ("chrono::datetime::DateTime<chrono::offset::utc::Utc>", "TIMESTAMPTZ")
  | .json | .point | .polygon => ("serde_json::value::Value", "JSONB")

inductive Cell where
  | null
  | int (n : Int)
  | double (x : Float)
  | bool (b : Bool)
  | instant (t : Instant)
  | bytes (content : List UInt8)

namespace Cell

def textOf (content : List UInt8) : Except CellProblem Json :=
  match Text.decode? content with
  | some s => .ok (.text s)
  | none => .error (.malformed ((Text.firstProblem content).elim "" Text.Problem.message))

def valueOf (content : List UInt8) : Except CellProblem Json :=
  match Json.parse (Text.decodeLossy content) with
  | .error e => .error (.malformed e.message)
  | .ok v =>
    match Text.decode? content with
    | some _ => .ok v
    | none => .error (.malformed "invalid unicode code point")

def value (kind : Query.ColumnKind) : Cell → Except CellProblem Json
  | .null => .ok .null
  | .int n => .ok (.int n)
  | .double x => .ok (.double x)
  | .bool b => .ok (.bool b)
  | .instant t => .ok (.text t.renderWithOffset)
  | .bytes content => if kind = .text then textOf content else valueOf content

/-- Reads a cell of a type as a kind. An empty cell is null whatever its type. -/
def read (kind : Query.ColumnKind) (t : ColumnType) (cell : Cell) : Except CellProblem Json :=
  if cell matches .null then .ok .null
  else if t.isReadAs kind then cell.value kind
  else
    let (value, column) := wanted kind
    .error (.mismatch ("core::option::Option<" ++ value ++ ">") column t.title)

def readCount (t : ColumnType) : Cell → Except CellProblem Int
  | .null => .error .unexpectedNull
  | .int n => if t = .int8 then .ok n else .error (.mismatch "i64" "INT8" t.title)
  | _ => .error (.mismatch "i64" "INT8" t.title)

end Cell

structure Row where
  types : List ColumnType
  cells : List Cell

namespace Row

def cell? (r : Row) (index : Nat) : Except Error (ColumnType × Cell) :=
  match r.types[index]? with
  | none => .error (.columnOutOfBounds r.types.length index)
  | some t => .ok (t, r.cells[index]?.getD .null)

def valuesFrom (r : Row) (index : Nat) : List Query.Column → Except Error (List (String × Json))
  | [] => .ok []
  | column :: rest => do
    let (t, cell) ← r.cell? index
    let value ← (cell.read column.kind t).mapError (.cell index)
    let others ← r.valuesFrom (index + 1) rest
    return (column.name, value) :: others

/-- The row as an object. Of two columns of one name the last stays. -/
def read (columns : List Query.Column) (r : Row) : Except Error Json.Fields :=
  (r.valuesFrom 0 columns).map .ofList

def readCount (r : Row) : Except Error Int := do
  let (t, cell) ← r.cell? 0
  (cell.readCount t).mapError (.cell 0)

end Row

end FleetControl.Store
