import FleetControl.Query.Scan
import FleetControl.Service.Error

namespace FleetControl.Query

structure Result where
  statement : String
  duration : Float
  columns : List Column
  rows : List Json.Fields

def Result.toJson (r : Result) : Json :=
  .ofEntries
    [("statement", .text r.statement), ("duration_ms", .double r.duration),
      ("row_count", .nat r.rows.length), ("columns", .list (r.columns.map Column.toJson)),
      ("rows", .list (r.rows.map .object))]

def Description.prepare (settings : Settings) (d : Description) :
    Except Service.Error Compiled :=
  match d.compile settings with
  | .error e => .error (.ofCompile e)
  | .ok q =>
    match q.check with
    | .error reason => .error (.refused reason)
    | .ok _ => .ok q

end FleetControl.Query
