import FleetControl.Text.Hex

namespace FleetControl

structure Identifier where
  value : Nat
deriving DecidableEq, Inhabited

namespace Identifier

def nil : Identifier := ⟨0⟩

inductive ReadError where
  | invalidCharacter (c : Char) (index : Nat)
  | invalidLength (length : Nat)
  | invalidGroupCount (count : Nat)
  | invalidGroupLength (group expected length : Nat)
deriving DecidableEq

def ReadError.message : ReadError → String
  | .invalidCharacter c i =>
    "invalid character: found `" ++ String.singleton c ++ "` at " ++ toString i
  | .invalidLength n => "invalid length: found " ++ toString n
  | .invalidGroupCount n => "invalid group count: expected 5, found " ++ toString n
  | .invalidGroupLength g e n =>
    "invalid group length in group " ++ toString g ++ ": expected " ++ toString e ++ ", found "
      ++ toString n

def hexValue? (cs : List Char) : Option Nat :=
  cs.foldl (fun n c => do return 16 * (← n) + (← Text.hexDigit? c)) (some 0)

def joinGroups? (cs : List Char) : Option (List Char) :=
  let hyphens := [8, 13, 18, 23]
  if cs.length = 36 && hyphens.all fun i => cs[i]? == some '-' then
    some (cs.zipIdx.filterMap fun (c, i) => if i ∈ hyphens then none else some c)
  else none

/-- The part of a text that should hold the groups, its place, and whether nothing stands around. -/
def unwrap (cs : List Char) : List Char × Nat × Bool :=
  let urn := "urn:uuid:".toList
  if urn.isPrefixOf cs then (cs.drop urn.length, urn.length, false)
  else
    match cs with
    | '\x7b' :: rest =>
      if rest.getLast? = some '\x7d' then (rest.dropLast, 1, false) else (cs, 0, true)
    | _ => (cs, 0, true)

def byteSize (cs : List Char) : Nat :=
  (String.ofList cs).utf8ByteSize

def firstForeign (place : Nat) : List Char → Option (Char × Nat)
  | [] => none
  | c :: rest =>
    if c == '-' || (Text.hexDigit? c).isSome then firstForeign (place + c.utf8Size) rest
    else some (c, place)

def diagnose (text : List Char) : ReadError :=
  let (cs, place, bare) := unwrap text
  match firstForeign place cs with
  | some (c, i) => .invalidCharacter c i
  | none =>
    let groups := cs.splitOn '-'
    if groups.length = 1 && bare then .invalidLength (byteSize text)
    else if groups.length ≠ 5 then .invalidGroupCount groups.length
    else
      let expected := [8, 4, 4, 4]
      let starts := [0, 9, 14, 19]
      let ends := groups.foldl (fun (acc : List Nat × Nat) g =>
        (acc.1 ++ [acc.2 + g.length], acc.2 + g.length + 1)) ([], 0)
      let bad := ((ends.1.take 4).zip (starts.zip expected)).zipIdx.find?
        fun ((stop, start, size), _) => stop ≠ start + size
      match bad with
      | some ((stop, start, size), i) => .invalidGroupLength i size (stop - start)
      | none => .invalidGroupLength 4 12 (byteSize text - 24)

def parse (text : String) : Except ReadError Identifier :=
  let cs := text.toList
  let digits :=
    if cs.length = 32 then some cs
    else
      let (inner, _, _) := unwrap cs
      joinGroups? inner
  match digits.bind hexValue? with
  | some value => .ok ⟨value⟩
  | none => .error (diagnose cs)

def lastDigits : Nat → Nat → List Char
  | 0, _ => []
  | n + 1, value => lastDigits n (value / 16) ++ [Nat.digitChar (value % 16)]

def render (id : Identifier) : String :=
  let group (n : Nat) (shift : Nat) := String.ofList (lastDigits n (id.value >>> shift))
  group 8 96 ++ "-" ++ group 4 80 ++ "-" ++ group 4 64 ++ "-" ++ group 4 48 ++ "-" ++ group 12 0

end Identifier

end FleetControl
