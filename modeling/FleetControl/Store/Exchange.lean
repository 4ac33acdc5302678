import FleetControl.Query.Result
import FleetControl.Store.Cell

namespace FleetControl.Store

structure Request where
  statement : String
  values : List Query.Bind
deriving DecidableEq

inductive Reply where
  | found (duration : Float) (rows : List Row)
  | refused (message : String)
  | hungUp

abbrev Database := Request → Reply

def Reply.toRows : Reply → Except Error (Float × List Row)
  | .found duration rows => .ok (duration, rows)
  | .refused message => .error (.refused message)
  | .hungUp => .error (.connection "expected to read 5 bytes, got 0 bytes at EOF")

structure Exchange where
  request : Request
  reply : Reply

structure Visit (α : Type) where
  exchanges : List Exchange
  result : Except Service.Error α

def Visit.refused {α : Type} (e : Service.Error) : Visit α := ⟨[], .error e⟩

def send {α : Type} (db : Database) (r : Request) (read : Float → List Row → Except Error α) :
    Visit α :=
  let reply := db r
  ⟨[⟨r, reply⟩], (reply.toRows.bind fun (duration, rows) => read duration rows).mapError .store⟩

def execute (db : Database) (q : Query.Compiled) : Visit Query.Result :=
  match q.check with
  | .error reason => .refused (.refused reason)
  | .ok _ =>
    send db ⟨q.statement, q.binds⟩ fun duration rows =>
      (rows.mapM (Row.read q.columns)).map fun objects =>
        ⟨q.statement, duration, q.columns, objects⟩

def search (settings : Query.Settings) (db : Database) (d : Query.Description) :
    Visit Query.Result :=
  match d.prepare settings with
  | .error e => .refused e
  | .ok q => execute db q

def countStatement (table : String) : String := "SELECT COUNT(*) FROM " ++ table

def countRows (db : Database) (table : String) : Visit Int :=
  match Query.Scan.checkStatement (countStatement table) with
  | .error reason => .refused (.refused reason)
  | .ok _ =>
    send db ⟨countStatement table, []⟩ fun _ rows =>
      match rows with
      | [] => .error .rowNotFound
      | row :: _ => row.readCount

/-- The numbers of the rows of tables, asked for one after another until one fails. -/
def countTables (db : Database) : List Query.Table → Visit (List (String × Int))
  | [] => ⟨[], .ok []⟩
  | table :: rest =>
    let first := countRows db table.name
    match first.result with
    | .error e => ⟨first.exchanges, .error e⟩
    | .ok n =>
      let others := countTables db rest
      ⟨first.exchanges ++ others.exchanges, others.result.map ((table.name, n) :: ·)⟩

def tableCounts (db : Database) : Visit (List (String × Int)) := countTables db Query.Table.all

end FleetControl.Store
