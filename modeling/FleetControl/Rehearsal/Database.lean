import FleetControl.Rehearsal.Script
import FleetControl.Store.Exchange

namespace FleetControl.Rehearsal

/-- The number that a cell tells; the numbers that JSON does not have are told by name. -/
def cellDouble : Json → Float
  | .number (.int n) => Float.ofInt n
  | .number (.double x) => x
  | .text "inf" => 1.0 / 0.0
  | .text "-inf" => -1.0 / 0.0
  | _ => 0.0 / 0.0

def cellBytes (v : Json) : List UInt8 :=
  match v with
  | .text s => Text.encode s
  | _ => bytesOf (textAt "hex" v).toList
where
  bytesOf : List Char → List UInt8
    | a :: b :: rest =>
      ((Text.hexDigit? a).getD 0 * 16 + (Text.hexDigit? b).getD 0).toUInt8 :: bytesOf rest
    | _ => []

def cellOf (t : Store.ColumnType) (v : Json) : Store.Cell :=
  match t, v with
  | _, .null => .null
  | .float4, v => .double (cellDouble v).toFloat32.toFloat
  | .float8, v => .double (cellDouble v)
  | .timestamptz, .number (.int n) => .instant (.ofMicrosSince2000 n)
  | _, .number (.int n) => .int n
  | _, .bool b => .bool b
  | _, v => .bytes (cellBytes v)

def nameOf : Json → String
  | .text s => s
  | _ => ""

def countRow (v : Json) : Store.Row :=
  match v with
  | .object _ =>
    let t := Store.ColumnType.ofName (textAt "type" v)
    ⟨[t], [cellOf t ((v.get? "value").getD .null)]⟩
  | _ => ⟨[.int8], [cellOf .int8 v]⟩

def countReply (counts : Json) (statement : String) : Store.Reply :=
  match Query.Table.all.find? fun t => Store.countStatement t.name == statement with
  | none => .refused ""
  | some t =>
    match counts.get? t.name with
    | some v => .found 0.0 [countRow v]
    | none => .refused ("relation \"" ++ t.name ++ "\" does not exist")

def database (v : Json) : Store.Database := fun r =>
  match v.get? "counts", v.get? "fail" with
  | some counts, _ => countReply counts r.statement
  | none, some failure => .refused (textAt "message" failure)
  | none, none =>
    if holds "hangup" v then .hungUp
    else
      let types := (listAt "types" v).map fun t => Store.ColumnType.ofName (nameOf t)
      let row (cells : Json) : Store.Row :=
        match cells with
        | .list cells => ⟨types, List.zipWith cellOf types cells⟩
        | _ => ⟨types, []⟩
      .found 0.0 ((listAt "rows" v).map row)

end FleetControl.Rehearsal
