import FleetControl.Toml.Document

namespace FleetControl.Config

inductive Origin where
  | file
  | environment
deriving DecidableEq

def Origin.name : Origin → String
  | .file => "config/default.toml"
  | .environment => "the environment"

inductive Scalar where
  | bool (b : Bool)
  | int (n : Int)
  | double (x : Float)
  | text (s : String)
deriving DecidableEq

inductive Tree where
  | nothing
  | leaf (origin : Origin) (v : Scalar)
  | list (origin : Option Origin) (items : List Tree)
  | table (entries : List (String × Tree))
deriving Inhabited

inductive Step where
  | key (name : String)
  /-- An index, which counts from the end when it is negative. -/
  | index (i : Int)
deriving DecidableEq

namespace Tree

mutual

def decEq : (t u : Tree) → Decidable (t = u)
  | .nothing, .nothing => .isTrue rfl
  | .leaf origin v, .leaf origin' v' =>
    decidable_of_iff (origin = origin' ∧ v = v') (by simp)
  | .list origin items, .list origin' items' =>
    have := decEqItems items items'
    decidable_of_iff (origin = origin' ∧ items = items') (by simp)
  | .table entries, .table entries' =>
    have := decEqEntries entries entries'
    decidable_of_iff (entries = entries') (by simp)
  | .nothing, .leaf .. | .nothing, .list .. | .nothing, .table _
  | .leaf .., .nothing | .leaf .., .list .. | .leaf .., .table _
  | .list .., .nothing | .list .., .leaf .. | .list .., .table _
  | .table _, .nothing | .table _, .leaf .. | .table _, .list .. => .isFalse (by simp)

def decEqItems : (ts us : List Tree) → Decidable (ts = us)
  | [], [] => .isTrue rfl
  | [], _ :: _ | _ :: _, [] => .isFalse (by simp)
  | t :: ts, u :: us =>
    have := decEq t u
    have := decEqItems ts us
    decidable_of_iff (t = u ∧ ts = us) (by simp)

def decEqEntries : (es fs : List (String × Tree)) → Decidable (es = fs)
  | [], [] => .isTrue rfl
  | [], _ :: _ | _ :: _, [] => .isFalse (by simp)
  | (key, t) :: es, (key', u) :: fs =>
    have := decEq t u
    have := decEqEntries es fs
    decidable_of_iff ((key = key' ∧ t = u) ∧ es = fs) (by simp)

end

instance : DecidableEq Tree := decEq

mutual

def ofToml : Toml.Value → Tree
  | .text s => .leaf .file (.text s)
  | .int n => .leaf .file (.int n)
  | .double x => .leaf .file (.double x)
  | .bool b => .leaf .file (.bool b)
  | .moment s => .leaf .file (.text s)
  | .list items => .list (some .file) (ofItems items)
  | .table entries => .table (ofEntries entries)

def ofItems : List Toml.Value → List Tree
  | [] => []
  | v :: rest => ofToml v :: ofItems rest

def ofEntries : List (String × Toml.Value) → List (String × Tree)
  | [] => []
  | (key, v) :: rest => (key, ofToml v) :: ofEntries rest

end

def entries : Tree → List (String × Tree)
  | .table entries => entries
  | _ => []

def items : Tree → List Tree
  | .list _ items => items
  | _ => []

def listOrigin : Tree → Option Origin
  | .list origin _ => origin
  | _ => none

def update (key : String) (f : Tree → Tree) : List (String × Tree) → List (String × Tree)
  | [] => [(key, f .nothing)]
  | (k, v) :: rest => if k = key then (k, f v) :: rest else (k, v) :: update key f rest

mutual

/-- A value in the place of the one before it, or merged with it if it is a table. -/
def mergedInto : Tree → Tree → Tree
  | .table entries, before => .table (mergedEntries entries before.entries)
  | v, _ => v

def mergedEntries : List (String × Tree) → List (String × Tree) → List (String × Tree)
  | [], before => before
  | (key, v) :: rest, before => mergedEntries rest (update key (mergedInto v) before)

end

/-- The items, extended so that there is one at an index, and its place among them. -/
def reach (items : List Tree) (i : Int) : List Tree × Nat :=
  let absent (count : Nat) : List Tree := List.replicate count .nothing
  if 0 ≤ i then (items ++ absent (i.toNat + 1 - items.length), i.toNat)
  else if i.natAbs ≤ items.length then (items, items.length - i.natAbs)
  else (absent (i.natAbs - items.length) ++ items, 0)

def set (v : Tree) : List Step → Tree → Tree
  | [], before => v.mergedInto before
  | .key name :: path, before => .table (update name (set v path) before.entries)
  | .index i :: path, before =>
    let (items, place) := reach before.items i
    .list before.listOrigin (items.modify place (set v path))

end Tree

def isKeyChar (c : Char) : Bool := c.isAlphanum || c == '_' || c == '-'

def index? (cs : List Char) : Option Int :=
  let digits := if cs.head? = some '-' then cs.drop 1 else cs
  if digits.isEmpty || !digits.all Char.isDigit then none
  else
    let n : Int := Decimal.natOfDigits digits
    some (if cs.head? = some '-' then -n else n)

def stepsAfter? : Nat → List Char → Option (List Step)
  | _, [] => some []
  | 0, _ :: _ => none
  | fuel + 1, '.' :: rest =>
    let (name, rest) := rest.span isKeyChar
    if name.isEmpty then none else (stepsAfter? fuel rest).map (.key (String.ofList name) :: ·)
  | fuel + 1, '[' :: rest =>
    let (inside, rest) := rest.span (· != ']')
    match index? inside, rest with
    | some i, _ :: rest => (stepsAfter? fuel rest).map (.index i :: ·)
    | _, _ => none
  | _ + 1, _ => none

/-- The steps that a key goes; a key that is not made of names and indices is one step. -/
def stepsOf (key : String) : List Step :=
  let (name, rest) := key.toList.span isKeyChar
  let steps := if name.isEmpty then none else stepsAfter? (rest.length + 1) rest
  steps.elim [.key key] (.key (String.ofList name) :: ·)

def Tree.put (before : Tree) (key : String) (v : Tree) : Tree := Tree.set v (stepsOf key) before

end FleetControl.Config
