import FleetControl.Toml.Scalar

namespace FleetControl.Toml

inductive Opening where
  | byOther
  | byHeader
  | byKey
deriving DecidableEq

inductive Node where
  | value (v : Value)
  | table (opening : Opening) (entries : List (String × Node))
  /-- Tables in a row, each opened by a header of its own. -/
  | tables (items : List (List (String × Node)))

abbrev Nodes := List (String × Node)

mutual

def Node.finish : Node → Value
  | .value v => v
  | .table _ entries => .table (finishEntries entries)
  | .tables items => .list (finishTables items)

def finishEntries : List (String × Node) → List (String × Value)
  | [] => []
  | (key, node) :: rest => (key, node.finish) :: finishEntries rest

def finishTables : List (List (String × Node)) → List Value
  | [] => []
  | entries :: rest => .table (finishEntries entries) :: finishTables rest

end

namespace Nodes

def replace (key : String) (node : Node) : Nodes → Nodes
  | [] => [(key, node)]
  | (k, old) :: rest => if k = key then (k, node) :: rest else (k, old) :: replace key node rest

def assign (v : Value) : List String → Nodes → Option Nodes
  | [], _ => none
  | [key], nodes =>
    match nodes.lookup key with
    | none => some (nodes.replace key (.value v))
    | some _ => none
  | key :: path, nodes =>
    match nodes.lookup key with
    | none => (assign v path []).map fun entries => nodes.replace key (.table .byKey entries)
    | some (.table .byKey entries) =>
      (assign v path entries).map fun entries => nodes.replace key (.table .byKey entries)
    | some _ => none

def openTable (inRow : Bool) : List String → Nodes → Option Nodes
  | [], nodes => some nodes
  | [key], nodes =>
    match nodes.lookup key, inRow with
    | none, true => some (nodes.replace key (.tables [[]]))
    | none, false => some (nodes.replace key (.table .byHeader []))
    | some (.tables items), true => some (nodes.replace key (.tables (items ++ [[]])))
    | some (.table .byOther entries), false => some (nodes.replace key (.table .byHeader entries))
    | some _, _ => none
  | key :: path, nodes =>
    match nodes.lookup key with
    | none => (openTable inRow path []).map fun entries => nodes.replace key (.table .byOther entries)
    | some (.table opening entries) =>
      (openTable inRow path entries).map fun entries => nodes.replace key (.table opening entries)
    | some (.tables items) =>
      (openTable inRow path (items.getLast?.getD [])).map fun entries =>
        nodes.replace key (.tables (items.dropLast ++ [entries]))
    | some (.value _) => none

/-- The entries with those of the table at a path changed; of tables in a row, the last is meant. -/
def changeAt (f : Nodes → Option Nodes) : List String → Nodes → Option Nodes
  | [], nodes => f nodes
  | key :: path, nodes =>
    match nodes.lookup key with
    | some (.table opening entries) =>
      (changeAt f path entries).map fun entries => nodes.replace key (.table opening entries)
    | some (.tables items) =>
      (changeAt f path (items.getLast?.getD [])).map fun entries =>
        nodes.replace key (.tables (items.dropLast ++ [entries]))
    | _ => none

end Nodes

def isKeyChar (c : Char) : Bool := c.isAlphanum || c == '_' || c == '-'

def keyPart (cs : List Char) : Except Stop (String × List Char) :=
  match cs with
  | '"' :: rest | '\'' :: rest =>
    let quote := cs.headD '"'
    (shortText quote (quote == '"') (rest.length + 1) rest).map fun (text, rest) =>
      (String.ofList text, rest)
  | _ =>
    let (name, rest) := cs.span isKeyChar
    if name.isEmpty then stopAt cs "invalid key" else .ok (String.ofList name, rest)

def key : Nat → List Char → Except Stop (List String × List Char)
  | 0, cs => stopAt cs "invalid key"
  | fuel + 1, cs => do
    let (part, rest) ← keyPart (skipBlanks cs)
    match skipBlanks rest with
    | '.' :: rest =>
      let (path, rest) ← key fuel rest
      return (part :: path, rest)
    | rest => return ([part], rest)

def skipComment : List Char → Except Stop (List Char)
  | '#' :: rest =>
    let after := rest.dropWhile isPlain
    if after.isEmpty || (lineEnd? after).isSome then .ok after else stopAt after "invalid comment"
  | cs => .ok cs

def skipSpace : Nat → List Char → Except Stop (List Char)
  | 0, cs => .ok cs
  | fuel + 1, cs => do
    let rest ← skipComment (skipBlanks cs)
    match lineEnd? rest with
    | some rest => skipSpace fuel rest
    | none => return rest

mutual

def value : Nat → List Char → Except Stop (Value × List Char)
  | 0, cs => stopAt cs "recursion limit"
  | fuel + 1, cs =>
    match cs with
    | '"' :: _ => (quotedText '"' cs).map fun (s, rest) => (.text s, rest)
    | '\'' :: _ => (quotedText '\'' cs).map fun (s, rest) => (.text s, rest)
    | '[' :: rest => do
      let (items, rest) ← items fuel rest
      return (.list items, rest)
    | '\x7b' :: rest => do
      let rest := skipBlanks rest
      match rest with
      | '\x7d' :: rest => return (.table [], rest)
      | _ =>
        let (entries, rest) ← entries fuel [] rest
        return (.table (finishEntries entries), rest)
    | _ => scalar cs

def items : Nat → List Char → Except Stop (List Value × List Char)
  | 0, cs => stopAt cs "invalid array"
  | fuel + 1, cs => do
    let cs ← skipSpace (cs.length + 1) cs
    match cs with
    | ']' :: rest => return ([], rest)
    | _ =>
      let (v, rest) ← value fuel cs
      match ← skipSpace (rest.length + 1) rest with
      | ',' :: rest =>
        let (more, rest) ← items fuel rest
        return (v :: more, rest)
      | ']' :: rest => return ([v], rest)
      | rest => stopAt rest "invalid array"

def entries : Nat → Nodes → List Char → Except Stop (Nodes × List Char)
  | 0, _, cs => stopAt cs "invalid inline table"
  | fuel + 1, nodes, cs => do
    let (path, rest) ← key (cs.length + 1) cs
    match rest with
    | '=' :: rest =>
      let (v, rest) ← value fuel (skipBlanks rest)
      match nodes.assign v path with
      | none => stopAt cs "duplicate key"
      | some nodes =>
        match skipBlanks rest with
        | ',' :: rest => entries fuel nodes rest
        | '\x7d' :: rest => return (nodes, rest)
        | rest => stopAt rest "invalid inline table"
    | _ => stopAt rest "invalid inline table"

end

structure Draft where
  nodes : Nodes
  place : List String

def statement (d : Draft) (cs : List Char) : Except Stop (Draft × List Char) :=
  match cs with
  | '[' :: '[' :: rest => do
    let (path, rest) ← key (rest.length + 1) rest
    match rest, d.nodes.openTable true path with
    | ']' :: ']' :: rest, some nodes => return (⟨nodes, path⟩, rest)
    | ']' :: ']' :: _, none => stopAt cs "duplicate key"
    | _, _ => stopAt rest "invalid table header"
  | '[' :: rest => do
    let (path, rest) ← key (rest.length + 1) rest
    match rest, d.nodes.openTable false path with
    | ']' :: rest, some nodes => return (⟨nodes, path⟩, rest)
    | ']' :: _, none => stopAt cs "duplicate key"
    | _, _ => stopAt rest "invalid table header"
  | _ => do
    let (path, rest) ← key (cs.length + 1) cs
    match rest with
    | '=' :: rest =>
      let (v, rest) ← value (rest.length + 1) (skipBlanks rest)
      match d.nodes.changeAt (Nodes.assign v path) d.place with
      | some nodes => return ({ d with nodes := nodes }, rest)
      | none => stopAt cs "duplicate key"
    | _ => stopAt rest "expected \x60.\x60, \x60=\x60"

def statements : Nat → Draft → List Char → Except Stop Draft
  | 0, d, _ => .ok d
  | fuel + 1, d, cs => do
    let cs ← skipSpace (cs.length + 1) cs
    if cs.isEmpty then return d
    else
      let (d, rest) ← statement d cs
      let rest ← skipComment (skipBlanks rest)
      if rest.isEmpty then return d
      else
        match lineEnd? rest with
        | some rest => statements fuel d rest
        | none => stopAt rest "expected newline, \x60#\x60"

/-- Why a text is no document: the number of the line and the place in it, both from 1 on, the line,
and what is wrong there. -/
structure Error where
  line : Nat
  place : Nat
  text : String
  reason : String
deriving DecidableEq

namespace Error

def ofStop (cs : List Char) (s : Stop) : Error :=
  let before := cs.take (cs.length - s.left)
  let start := (before.reverse.takeWhile (· ≠ '\n')).reverse
  let line := start ++ ((cs.drop before.length).takeWhile (· ≠ '\n'))
  ⟨before.count '\n' + 1, start.length + 1, String.ofList line, s.reason⟩

def message (e : Error) : String :=
  let number := toString e.line
  let margin := String.ofList (List.replicate (number.length + 1) ' ')
  let indent := String.ofList (List.replicate e.place ' ')
  "TOML parse error at line " ++ number ++ ", column " ++ toString e.place ++ "\n" ++ margin ++ "|\n"
    ++ number ++ " | " ++ e.text ++ "\n" ++ margin ++ "|" ++ indent ++ "^\n" ++ e.reason ++ "\n"

end Error

def parse (text : String) : Except Error (List (String × Value)) :=
  let cs := text.toList
  let body := if cs.head? = some '\ufeff' then cs.drop 1 else cs
  match statements (body.length + 1) ⟨[], []⟩ body with
  | .ok d => .ok (finishEntries d.nodes)
  | .error s => .error (.ofStop body s)

end FleetControl.Toml
