namespace FleetControl.Text

def decode? (bytes : List UInt8) : Option String :=
  String.fromUTF8? ⟨bytes.toArray⟩

def encode (s : String) : List UInt8 :=
  s.toByteArray.data.toList

inductive Head where
  | character (size : Nat)
  | malformed (size : Nat)
  | unfinished

def isContinuation (b : UInt8) : Bool :=
  b &&& 0xC0 == 0x80

/-- The bytes that may follow the first byte of a character, and the count of all that follow. -/
def followers (first : UInt8) : Option (UInt8 × UInt8 × Nat) :=
  if 0xC2 ≤ first && first ≤ 0xDF then some (0x80, 0xBF, 1)
  else if first == 0xE0 then some (0xA0, 0xBF, 2)
  else if first == 0xED then some (0x80, 0x9F, 2)
  else if 0xE1 ≤ first && first ≤ 0xEF then some (0x80, 0xBF, 2)
  else if first == 0xF0 then some (0x90, 0xBF, 3)
  else if first == 0xF4 then some (0x80, 0x8F, 3)
  else if 0xF1 ≤ first && first ≤ 0xF3 then some (0x80, 0xBF, 3)
  else none

def headAfter (seen : Nat) : Nat → List UInt8 → Head
  | 0, _ => .character seen
  | _ + 1, [] => .unfinished
  | n + 1, b :: rest =>
    if isContinuation b then headAfter (seen + 1) n rest else .malformed seen

def headOf (first : UInt8) (rest : List UInt8) : Head :=
  if first < 0x80 then .character 1
  else
    match followers first with
    | none => .malformed 1
    | some (low, high, more) =>
      match rest with
      | [] => .unfinished
      | second :: others =>
        if low ≤ second && second ≤ high then headAfter 2 (more - 1) others else .malformed 1

structure Problem where
  index : Nat
  /-- The count of offending bytes; none when the bytes end inside a character. -/
  size : Option Nat

def problemFrom (index : Nat) : Nat → List UInt8 → Option Problem
  | 0, _ => none
  | _ + 1, [] => none
  | fuel + 1, first :: rest =>
    match headOf first rest with
    | .character size => problemFrom (index + size) fuel (rest.drop (size - 1))
    | .malformed size => some ⟨index, some size⟩
    | .unfinished => some ⟨index, none⟩

def firstProblem (bytes : List UInt8) : Option Problem :=
  problemFrom 0 bytes.length bytes

def Problem.message (p : Problem) : String :=
  match p.size with
  | some size => "invalid utf-8 sequence of " ++ toString size ++ " bytes from index " ++ toString p.index
  | none => "incomplete utf-8 byte sequence from index " ++ toString p.index

def withReplacement (acc : Array UInt8) : Array UInt8 :=
  ((acc.push 0xEF).push 0xBF).push 0xBD

/-- The bytes with each ill-formed run replaced by the bytes of U+FFFD. -/
def repairedFrom (acc : Array UInt8) : Nat → List UInt8 → Array UInt8
  | 0, _ => acc
  | _ + 1, [] => acc
  | fuel + 1, first :: rest =>
    match headOf first rest with
    | .character size =>
      let others := rest.take (size - 1)
      repairedFrom (others.foldl Array.push (acc.push first)) fuel (rest.drop (size - 1))
    | .malformed size => repairedFrom (withReplacement acc) fuel (rest.drop (size - 1))
    | .unfinished => withReplacement acc

/-- The text of any bytes, ill-formed runs shown as replacement characters. -/
def decodeLossy (bytes : List UInt8) : String :=
  (String.fromUTF8? ⟨repairedFrom #[] bytes.length bytes⟩).getD ""

end FleetControl.Text
