import FleetControl.Json.Draft
import FleetControl.Text.Identifier
import FleetControl.Text.Quoted
import FleetControl.Time.Reading

namespace FleetControl.Json

/-- What a shape is read from. A part set aside was skipped while something later had to be known first. -/
inductive Source where
  | text
  | value
  | aside
deriving DecidableEq

inductive Found where
  | null
  | bool (b : Bool)
  | int (n : Int)
  | double (x : Float)
  | text (s : String)
  | list
  | object
deriving DecidableEq

def Found.describe : Found → String
  | .null => "null"
  | .bool b => "boolean `" ++ (if b then "true" else "false") ++ "`"
  | .int n => "integer `" ++ toString n ++ "`"
  | .double x => "floating point `" ++ Decimal.Layout.json.render x ++ "`"
  | .text s => "string " ++ Text.quoted s
  | .list => "sequence"
  | .object => "map"

inductive ReadError where
  | fault (f : Fault)
  | wrongType (found : Found) (expected : String)
  | wrongValue (found : Found) (expected : String)
  | wrongLength (length : Nat) (expected : String)
  | missingField (name : String)
  | duplicateField (name : String)
  | unknownVariant (name : String) (expected : List String)
  | instant (e : Instant.ReadError)
  | identifier (e : Identifier.ReadError)
deriving DecidableEq

def oneOf : List String → String
  | [] => "there are no variants"
  | [a] => "expected `" ++ a ++ "`"
  | [a, b] => "expected `" ++ a ++ "` or `" ++ b ++ "`"
  | names => "expected one of " ++ ", ".intercalate (names.map fun n => "`" ++ n ++ "`")

def ReadError.message : ReadError → String
  | .fault f => f.message
  | .wrongType found expected =>
    "invalid type: " ++ found.describe ++ ", expected " ++ expected
  | .wrongValue found expected =>
    "invalid value: " ++ found.describe ++ ", expected " ++ expected
  | .wrongLength n expected => "invalid length " ++ toString n ++ ", expected " ++ expected
  | .missingField name => "missing field `" ++ name ++ "`"
  | .duplicateField name => "duplicate field `" ++ name ++ "`"
  | .unknownVariant name expected => "unknown variant `" ++ name ++ "`, " ++ oneOf expected
  | .instant e => e.message
  | .identifier e => "UUID parsing failed: " ++ e.message

abbrev Reader (α : Type) := Source → Draft → Except ReadError α

namespace Reader

def mismatch {α : Type} (expected : String) : Draft → Except ReadError α
  | .null => .error (.wrongType .null expected)
  | .bool b => .error (.wrongType (.bool b) expected)
  | .number (.int n) => .error (.wrongType (.int n) expected)
  | .number (.double x) => .error (.wrongType (.double x) expected)
  | .text s => .error (.wrongType (.text s) expected)
  | .list _ _ => .error (.wrongType .list expected)
  | .object _ _ => .error (.wrongType .object expected)
  | .deep inner =>
    match inner with
    | .list _ _ => .error (.wrongType .list expected)
    | _ => .error (.wrongType .object expected)
  | .valueless f _ => .error (.fault f)
  | .broken b _ => .error (.fault b.reading)

def lift {α : Type} : Except Fault α → Except ReadError α
  | .ok a => .ok a
  | .error f => .error (.fault f)

def any : Reader Json := fun _ d => lift d.value

def bool : Reader Bool
  | _, .bool b => .ok b
  | _, d => mismatch "a boolean" d

def text : Reader String
  | _, .text s => .ok s
  | _, d => mismatch "a string" d

def double : Reader Float
  | _, .number (.double x) => .ok x
  | _, .number (.int n) => .ok (Float.ofInt n)
  | _, d => mismatch "f64" d

def natBelow (bound : Nat) (name : String) : Reader Nat
  | _, .number (.int n) =>
    if 0 ≤ n && n < bound then .ok n.toNat else .error (.wrongValue (.int n) name)
  | _, d => mismatch name d

def byte : Reader Nat := natBelow UInt8.size "u8"

def word : Reader Nat := natBelow UInt32.size "u32"

def long : Reader Nat := natBelow UInt64.size "u64"

def count : Reader Nat := natBelow UInt64.size "usize"

def instant : Reader Instant
  | _, .text s =>
    match Instant.parse s with
    | .ok t => .ok t
    | .error e => .error (.instant e)
  | _, d => mismatch "an RFC 3339 formatted date and time string" d

def identifier : Reader Identifier
  | _, .text s =>
    match Identifier.parse s with
    | .ok id => .ok id
    | .error e => .error (.identifier e)
  | _, d => mismatch "a formatted UUID string" d

def option {α : Type} (r : Reader α) : Reader (Option α)
  | _, .null => .ok none
  | source, d => (r source d).map some

def items {α : Type} (r : Reader α) (source : Source) (fault : Option Broken) :
    List Draft → Except ReadError (List α)
  | [] =>
    match fault with
    | none => .ok []
    | some b => .error (.fault b.reading)
  | d :: rest =>
    match r source d with
    | .error e => .error e
    | .ok a => (items r source fault rest).map (a :: ·)

def list {α : Type} (r : Reader α) : Reader (List α)
  | source, .list ds fault => items r source fault ds
  | _, .deep (.list _ _) => .error (.fault .tooDeep)
  | _, d => mismatch "a sequence" d

def fields : Reader Fields
  | _, .object entries fault =>
    match lift (Draft.value (.object entries fault)) with
    | .ok (.object fields) => .ok fields
    | .ok _ => .ok []
    | .error e => .error e
  | _, .deep (.object _ _) => .error (.fault .tooDeep)
  | _, d => mismatch "a map" d

def afterLast : Fault → Fault
  | .trailingComma => .trailingComma
  | .endInList => .endInList
  | _ => .trailingCharacters

def noSurplus (source : Source) (taken : Nat) (rest : List Draft) (fault : Option Broken) :
    Except ReadError Unit :=
  match source, rest, fault with
  | _, [], none => .ok ()
  | .text, [], some b => .error (.fault (afterLast b.reading))
  | .text, _ :: _, _ => .error (.fault .trailingCharacters)
  | .value, _, _ => .error (.wrongLength (taken + rest.length) "fewer elements in array")
  | .aside, _, _ =>
    let counted := toString taken ++ if taken = 1 then " element" else " elements"
    .error (.wrongLength (taken + rest.length) (counted ++ " in sequence"))

def exactly {α : Type} (r : Reader α) (length : Nat) : Reader (List α)
  | source, .list ds fault =>
    if ds.length < length then
      match items r source fault ds with
      | .error e => .error e
      | .ok _ =>
        .error (.wrongLength ds.length ("an array of length " ++ toString length))
    else
      match items r source none (ds.take length) with
      | .error e => .error e
      | .ok values => (noSurplus source length (ds.drop length) fault).map fun _ => values
  | _, .deep (.list _ _) => .error (.fault .tooDeep)
  | _, d => mismatch ("an array of length " ++ toString length) d

def unit : Reader Unit
  | _, .null => .ok ()
  | _, d => mismatch "unit" d

def named {α : Type} (variants : List (String × α)) (name : String) : Except ReadError α :=
  match variants.lookup name with
  | some a => .ok a
  | none => .error (.unknownVariant name (variants.map Prod.fst))

/-- A choice among names. It may also be told by an object whose only key is the name. -/
def variant {α : Type} (variants : List (String × α)) : Reader α
  | _, .text s => named variants s
  | .text, .broken b kind =>
    .error (.fault (if kind = .text || kind = .nothing then b.reading else .expectedValue))
  | .text, .valueless f kind => .error (.fault (if kind = .text then f else .expectedValue))
  | _, .deep (.object _ _) => .error (.fault .tooDeep)
  | .text, .object entries fault =>
    match entries with
    | [] =>
      match fault with
      | none => .error (.fault .expectedValue)
      | some b => .error (.fault (if b.reading = .endInObject then .endInValue else b.reading))
    | (name, d) :: rest =>
      match named variants name with
      | .error e => .error e
      | .ok a =>
        match unit .text d, rest, fault with
        | .error e, _, _ => .error e
        | .ok _, [], none => .ok a
        | .ok _, [], some ⟨.endInObject, _⟩ => .error (.fault .endInObject)
        | .ok _, _, _ => .error (.fault .expectedValue)
  | .text, _ => .error (.fault .expectedValue)
  | source, .object [(name, d)] _ =>
    match named variants name with
    | .error e => .error e
    | .ok a => (unit source d).map fun _ => a
  | _, .object _ _ => .error (.wrongValue .object "map with a single key")
  | _, d => mismatch "string or map" d

def variantName {α : Type} (variants : List (String × α)) : Reader α
  | _, .text s => named variants s
  | _, d => mismatch "variant identifier" d

/-- A part that is set aside to be read later; it has to be a whole value. -/
def setAside (d : Draft) : Except ReadError Draft :=
  (lift d.value).map fun _ => d

end Reader

structure Items where
  taken : Nat
  rest : List Draft
  fault : Option Broken
  expected : String

def Items.next (s : Items) : Except ReadError (Option Draft × Items) :=
  match s.rest, s.fault with
  | d :: rest, _ => .ok (some d, ⟨s.taken + 1, rest, s.fault, s.expected⟩)
  | [], none => .ok (none, s)
  | [], some b => .error (.fault b.reading)

/-- How the fields of a record are read, from an object or from a list of their values in order. -/
structure Record (α : Type) where
  checks : List (String × Reader Unit)
  ofFields : Source → (String → Option Draft) → Except ReadError α
  ofItems : Source → Items → Except ReadError (α × Items)

namespace Record

def pure {α : Type} (a : α) : Record α where
  checks := []
  ofFields := fun _ _ => .ok a
  ofItems := fun _ s => .ok (a, s)

def seq {α β : Type} (f : Record (α → β)) (a : Record α) : Record β where
  checks := f.checks ++ a.checks
  ofFields := fun source lookup =>
    match f.ofFields source lookup with
    | .error e => .error e
    | .ok g => (a.ofFields source lookup).map g
  ofItems := fun source s =>
    match f.ofItems source s with
    | .error e => .error e
    | .ok (g, s) => (a.ofItems source s).map fun (x, s) => (g x, s)

instance : Applicative Record where
  pure := Record.pure
  seq f a := f.seq (a ())

/-- A field; the two errors are those of its absence from an object and from a list. -/
def field {α : Type} (name : String) (r : Reader α) (absent : Except ReadError α)
    (short : Items → Except ReadError α) : Record α where
  checks := [(name, fun source d => (r source d).map fun _ => ())]
  ofFields := fun source lookup =>
    match lookup name with
    | some d => r source d
    | none => absent
  ofItems := fun source s =>
    match s.next with
    | .error e => .error e
    | .ok (some d, s) => (r source d).map fun a => (a, s)
    | .ok (none, s) => (short s).map fun a => (a, s)

def tooShort {α : Type} (s : Items) : Except ReadError α :=
  .error (.wrongLength s.taken s.expected)

def required {α : Type} (name : String) (r : Reader α) : Record α :=
  field name r (.error (.missingField name)) tooShort

def optional {α : Type} (name : String) (r : Reader α) : Record (Option α) :=
  field name (Reader.option r) (.ok none) tooShort

def defaulted {α : Type} (name : String) (r : Reader α) (value : α) : Record α :=
  field name r (.ok value) fun _ => .ok value

def perhaps {α : Type} (name : String) (r : Reader α) : Record (Option α) :=
  defaulted name (Reader.option r) none

def names {α : Type} (r : Record α) : List String :=
  r.checks.map Prod.fst

/-- Reads the entries of an object in text order: a field twice, a field whose value has another
shape and a fault stop it. Returns the entries of fields, and those of no field, which `others`
checks. -/
def scan (checks : List (String × Reader Unit)) (others : Draft → Except ReadError Unit)
    (source : Source) (fault : Option Broken) :
    List (String × Draft) → List (String × Draft) →
      Except ReadError (List (String × Draft))
  | seen, [] =>
    match fault with
    | none => .ok seen
    | some b => .error (.fault b.reading)
  | seen, (key, d) :: rest =>
    match checks.lookup key with
    | none =>
      match others d with
      | .error e => .error e
      | .ok _ => scan checks others source fault seen rest
    | some check =>
      if (seen.lookup key).isSome then .error (.duplicateField key)
      else
        match check source d with
        | .error e => .error e
        | .ok _ => scan checks others source fault ((key, d) :: seen) rest

def passOver (d : Draft) : Except ReadError Unit :=
  match d.skipFault with
  | none => .ok ()
  | some f => .error (.fault f)

def readEntries {α : Type} (r : Record α) (source : Source) (fault : Option Broken)
    (entries : List (String × Draft)) : Except ReadError α :=
  match scan r.checks passOver source fault [] entries with
  | .error e => .error e
  | .ok seen => r.ofFields source fun name => seen.lookup name

def listName {α : Type} (r : Record α) (name : String) : String :=
  name ++ " with " ++ toString r.checks.length
    ++ if r.checks.length = 1 then " element" else " elements"

def reader {α : Type} (r : Record α) (name : String) : Reader α
  | source, .object entries fault => r.readEntries source fault entries
  | source, .list ds fault =>
    match r.ofItems source ⟨0, ds, fault, r.listName name⟩ with
    | .error e => .error e
    | .ok (a, s) => (Reader.noSurplus source s.taken s.rest fault).map fun _ => a
  | _, .deep _ => .error (.fault .tooDeep)
  | _, d => Reader.mismatch name d

/-- A record whose object also holds the fields of something else, which are handed on as the
entries of no field of its own. -/
def readerWith {α β γ : Type} (r : Record α) (name : String)
    (inner : List (String × Draft) → Except ReadError β) (combine : α → β → γ) : Reader γ
  | source, .object entries fault =>
    match scan r.checks (fun d => (Reader.setAside d).map fun _ => ()) source fault [] entries with
    | .error e => .error e
    | .ok seen =>
      match r.ofFields source fun name => seen.lookup name with
      | .error e => .error e
      | .ok a =>
        let others := entries.filter fun (key, _) => (r.checks.lookup key).isNone
        (inner others).map fun b => combine a b
  | _, .deep (.object _ _) => .error (.fault .tooDeep)
  | _, d => Reader.mismatch name d

end Record

def readValue {α : Type} (r : Reader α) (v : Json) : Except ReadError α :=
  r .value v.draft

def readText {α : Type} (r : Reader α) (text : String) : Except ReadError α :=
  let document := Draft.ofText text
  match r .text document.root with
  | .error e => .error e
  | .ok a => if document.surplus then .error (.fault .trailingCharacters) else .ok a

end FleetControl.Json
