import FleetControl.Decimal.Layout

namespace FleetControl

inductive Json.Number where
  | int (n : Int)
  | double (x : Float)
deriving DecidableEq

/-- A value of JSON. An object has its fields in the order of their keys, each key once. -/
inductive Json where
  | null
  | bool (b : Bool)
  | number (n : Json.Number)
  | text (s : String)
  | list (items : List Json)
  | object (fields : List (String × Json))
deriving Inhabited

namespace Json

abbrev Fields := List (String × Json)

def Fields.insert (key : String) (value : Json) : Fields → Fields
  | [] => [(key, value)]
  | (k, v) :: rest =>
    if key < k then (key, value) :: (k, v) :: rest
    else if key = k then (key, value) :: rest
    else (k, v) :: Fields.insert key value rest

/-- The fields in key order; of several values under a key the last one stays. -/
def Fields.ofList (entries : List (String × Json)) : Fields :=
  entries.foldl (fun fields (key, value) => Fields.insert key value fields) []

def ofEntries (entries : List (String × Json)) : Json :=
  .object (Fields.ofList entries)

def get? (key : String) : Json → Option Json
  | .object fields => fields.lookup key
  | _ => none

def int (n : Int) : Json := .number (.int n)

def nat (n : Nat) : Json := .number (.int n)

/-- A double; what is not finite has no number in JSON and is null. -/
def double (x : Float) : Json :=
  if x.isFinite then .number (.double x) else .null

def option {α : Type} (f : α → Json) : Option α → Json
  | none => .null
  | some a => f a

def entry? {α : Type} (key : String) (f : α → Json) : Option α → List (String × Json)
  | none => []
  | some a => [(key, f a)]

def escape (c : Char) : List Char :=
  match c with
  | '"' => ['\\', '"']
  | '\\' => ['\\', '\\']
  | '\n' => ['\\', 'n']
  | '\r' => ['\\', 'r']
  | '\t' => ['\\', 't']
  | '\x08' => ['\\', 'b']
  | '\x0c' => ['\\', 'f']
  | _ =>
    if c.toNat < 0x20 then
      ['\\', 'u', '0', '0', Nat.digitChar (c.toNat / 16), Nat.digitChar (c.toNat % 16)]
    else [c]

def quote (s : String) : String :=
  String.ofList ('"' :: s.toList.flatMap escape ++ ['"'])

def Number.render : Number → String
  | .int n => toString n
  | .double x => Decimal.Layout.json.render x

mutual

def render : Json → String
  | .null => "null"
  | .bool b => if b then "true" else "false"
  | .number n => n.render
  | .text s => quote s
  | .list items => "[" ++ ",".intercalate (renderItems items) ++ "]"
  | .object fields => "\x7b" ++ ",".intercalate (renderFields fields) ++ "\x7d"

def renderItems : List Json → List String
  | [] => []
  | item :: rest => render item :: renderItems rest

def renderFields : List (String × Json) → List String
  | [] => []
  | (key, value) :: rest => (quote key ++ ":" ++ render value) :: renderFields rest

end

end Json

end FleetControl
