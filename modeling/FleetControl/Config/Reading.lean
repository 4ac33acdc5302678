import FleetControl.Config.Settings
import FleetControl.Config.Tree
import FleetControl.Text.Whole

namespace FleetControl.Config

inductive Found where
  | nothing
  | bool (b : Bool)
  | int (n : Int)
  | double (x : Float)
  | text (s : String)
  | list
  | table
  | wide (n : Int)
  | wideNat (n : Nat)
deriving DecidableEq

namespace Found

def pointed (x : Float) : String :=
  let digits := Decimal.sentence x
  if x.isFinite && !digits.contains '.' then digits ++ ".0" else digits

def describe : Found → String
  | .nothing => "unit value"
  | .bool b => "boolean \x60" ++ (if b then "true" else "false") ++ "\x60"
  | .int n => "integer \x60" ++ toString n ++ "\x60"
  | .double x => "floating point \x60" ++ pointed x ++ "\x60"
  | .text s => "string " ++ Text.quoted s
  | .list => "sequence"
  | .table => "map"
  | .wide n => "64-bit integer \x60" ++ toString n ++ "\x60"
  | .wideNat n => "64-bit unsigned integer \x60" ++ toString n ++ "\x60"

def ofTree : Tree → Found
  | .nothing => .nothing
  | .leaf _ (.bool b) => .bool b
  | .leaf _ (.int n) => .int n
  | .leaf _ (.double x) => .double x
  | .leaf _ (.text s) => .text s
  | .list _ _ => .list
  | .table _ => .table

end Found

inductive Cause where
  | wrongType (found : Found) (expected : String)
  | unknownName (choice name : String)
  | notNamed (choice : String)
deriving DecidableEq

def Cause.message : Cause → String
  | .wrongType found expected => "invalid type: " ++ found.describe ++ ", expected " ++ expected
  | .unknownName choice name => "enum " ++ choice ++ " does not have variant constructor " ++ name
  | .notNamed choice =>
    "value of enum " ++ choice
      ++ " should be represented by either string or table with exactly one key"

/-- What is wrong with the value of a key, and where it was told, if that is known. -/
structure ReadError where
  cause : Cause
  key : String
  origin : Option Origin
deriving DecidableEq

namespace ReadError

def of (cause : Cause) (origin : Option Origin := none) : ReadError := ⟨cause, "", origin⟩

def under (key : String) (e : ReadError) : ReadError :=
  let point := if e.key.isEmpty || e.key.startsWith "[" then "" else "."
  { e with key := key ++ point ++ e.key }

def inside (index : Nat) (e : ReadError) : ReadError :=
  { e with key := "[" ++ toString index ++ "]" ++ e.key }

def message (e : ReadError) : String :=
  e.cause.message ++ (if e.key.isEmpty then "" else " for key \x60" ++ e.key ++ "\x60")
    ++ (e.origin.map fun o => " in " ++ o.name).getD ""

end ReadError

namespace Tree

/-- Where a value was told. Tables are told in more places than one. -/
def origin? : Tree → Option Origin
  | .leaf origin _ => some origin
  | .list origin _ => origin
  | _ => none

def notTurned {α : Type} (t : Tree) (expected : String) : Except ReadError α :=
  .error (.of (.wrongType (.ofTree t) expected) t.origin?)

def meant? (s : String) : Option Bool :=
  match String.ofList (s.toList.map Char.toLower) with
  | "true" | "on" | "yes" => some true
  | "false" | "off" | "no" => some false
  | _ => none

/-- A natural number of 64 bits: a truth value counts as 0 or 1, a double is rounded, and a text is
read. -/
def long (t : Tree) : Except ReadError Nat :=
  let wanted := "an unsigned 64 bit or less integer"
  match t with
  | .leaf origin (.int n) =>
    if 0 ≤ n then .ok n.toNat else .error (.of (.wrongType (.wide n) wanted) (some origin))
  | .leaf _ (.bool b) => .ok b.toNat
  | .leaf _ (.double x) => .ok x.round.toUInt64.toNat
  | .leaf _ (.text s) =>
    match meant? s, Text.natUpTo (UInt64.size - 1) s with
    | some b, _ => .ok b.toNat
    | none, .ok n => .ok n
    | none, .error _ => t.notTurned "an integer"
  | t => t.notTurned "an integer"

def word (t : Tree) : Except ReadError Nat := do
  let n ← t.long
  if n < UInt32.size then return n
  else .error (.of (.wrongType (.wideNat n) "an unsigned 32 bit integer"))

def double (t : Tree) : Except ReadError Float :=
  match t with
  | .leaf _ (.double x) => .ok x
  | .leaf _ (.int n) => .ok (Float.ofInt n)
  | .leaf _ (.bool b) => .ok (if b then 1.0 else 0.0)
  | .leaf _ (.text s) =>
    match meant? s, Decimal.parse? s with
    | some b, _ => .ok (if b then 1.0 else 0.0)
    | none, some x => .ok x
    | none, none => t.notTurned "a floating point"
  | t => t.notTurned "a floating point"

def text (t : Tree) : Except ReadError String :=
  match t with
  | .leaf _ (.text s) => .ok s
  | .leaf _ (.bool b) => .ok (if b then "true" else "false")
  | .leaf _ (.int n) => .ok (toString n)
  | .leaf _ (.double x) => .ok (Decimal.sentence x)
  | t => t.notTurned "a string"

def option {α : Type} (read : Tree → Except ReadError α) : Tree → Except ReadError (Option α)
  | .nothing => .ok none
  | t => (read t).map some

def action (t : Tree) : Except ReadError Command.Action :=
  let named (name : String) : Except ReadError Command.Action :=
    match Command.Action.ofName? name with
    | some a => .ok a
    | none => .error (.of (.unknownName "Action" name))
  match t with
  | .leaf _ (.text name) => named name
  | .table [(name, _)] => named name
  | _ => .error (.of (.notNamed "Action"))

def itemsFrom {α : Type} (read : Tree → Except ReadError α) (index : Nat) :
    List Tree → Except ReadError (List α)
  | [] => .ok []
  | t :: rest => do
    let a ← (read t).mapError (.inside index)
    let others ← itemsFrom read (index + 1) rest
    return a :: others

def actions : Tree → Except ReadError (List Command.Action)
  | .list _ items => itemsFrom action 0 items
  | t => .error (.of (.wrongType (.ofTree t) "a sequence"))

end Tree

/-- What is told of a section: values under their keys, or in the order of the keys. -/
inductive Section where
  | named (entries : List (String × Tree))
  | ordered (items : List Tree)

namespace Section

def ofTree (name : String) : Tree → Except ReadError Section
  | .table entries => .ok (.named entries)
  | .list _ items => .ok (.ordered items)
  | t => .error (.of (.wrongType (.ofTree t) name))

def get {α : Type} (s : Section) (place : Nat) (key : String) (read : Tree → Except ReadError α)
    (absent : α) : Except ReadError α :=
  match s with
  | .named entries => (entries.lookup key).elim (.ok absent) fun t => (read t).mapError (.under key)
  | .ordered items => (items[place]?).elim (.ok absent) fun t => (read t).mapError (.inside place)

end Section

namespace Tree

def endpoint (t : Tree) : Except ReadError Endpoint := do
  let s ← Section.ofTree "struct DeviceApiConfig" t
  return ⟨← s.get 0 "endpoint" text Endpoint.standard.url,
    ← s.get 1 "api_key" (option text) none,
    ← s.get 2 "connect_timeout" long Endpoint.standard.connectTimeout⟩

/-- How requests are tried. A time limit for the whole request is there only if it is told. -/
def policy (t : Tree) : Except ReadError Retry.Policy := do
  let s ← Section.ofTree "struct RetryConfig" t
  let standard := Retry.Policy.standard
  return ⟨← s.get 0 "max_attempts" word standard.maxAttempts,
    ← s.get 1 "min_wait" long standard.minWait,
    ← s.get 2 "max_wait" long standard.maxWait,
    ← s.get 3 "attempt_timeout" long standard.attemptTimeout,
    ← s.get 4 "overall_timeout" (option long) none⟩

def dispatcher (t : Tree) : Except ReadError Dispatch.Settings := do
  let s ← Section.ofTree "struct DispatcherConfig" t
  return ⟨← s.get 0 "confirmation_required" actions Dispatch.Settings.standard.confirmed,
    ← s.get 1 "allowed_actions" (option actions) none,
    ← s.get 2 "history_limit" long Dispatch.Settings.standard.historyLimit⟩

def query (t : Tree) : Except ReadError Query.Settings := do
  let s ← Section.ofTree "struct QueryConfig" t
  return ⟨← s.get 0 "max_rows" word Query.Settings.standard.maxRows,
    ← s.get 1 "point_radius_m" double Query.Settings.standard.pointRadius⟩

def database (t : Tree) : Except ReadError Database := do
  let s ← Section.ofTree "struct DatabaseConfig" t
  return ⟨← s.get 0 "url" text Database.standard.url,
    ← s.get 1 "max_connections" word Database.standard.maxConnections⟩

def settings (t : Tree) : Except ReadError Settings := do
  let s ← Section.ofTree "struct AppConfig" t
  return ⟨← s.get 0 "device_api" endpoint .standard, ← s.get 1 "retry" policy .standard,
    ← s.get 2 "dispatcher" dispatcher .standard, ← s.get 3 "query" query .standard,
    ← s.get 4 "database" database .standard⟩

end Tree

end FleetControl.Config
