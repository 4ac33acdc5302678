import FleetControl.Text.Ranges
import FleetControl.Time.Instant

namespace FleetControl.Instant

inductive ReadError where
  | tooShort
  | invalid
  | outOfRange
  | impossible
  | tooLong
deriving DecidableEq

def ReadError.message : ReadError → String
  | .tooShort => "premature end of input"
  | .invalid => "input contains invalid characters"
  | .outOfRange => "input is out of range"
  | .impossible => "no possible date and time matching input"
  | .tooLong => "trailing input"

def skipBlanks (cs : List Char) : List Char :=
  cs.dropWhile Text.isBlank

/-- The number at the front, of at most `width` digits if there is a bound. It has to fit 63 bits. -/
def number (width : Option Nat) (cs : List Char) : Except ReadError (Nat × List Char) :=
  let front := (width.map cs.take).getD cs
  let digits := front.takeWhile Char.isDigit
  if cs.isEmpty then .error .tooShort
  else if digits.isEmpty then .error .invalid
  else
    let n := digits.foldl (fun n c => 10 * n + (c.toNat - '0'.toNat)) 0
    if n ≤ 9223372036854775807 then .ok (n, cs.drop digits.length) else .error .outOfRange

def shortNumber (low high : Nat) (cs : List Char) : Except ReadError (Nat × List Char) := do
  let (n, rest) ← number (some 2) (skipBlanks cs)
  if low ≤ n && n ≤ high then .ok (n, rest) else .error .outOfRange

def year (cs : List Char) : Except ReadError (Int × List Char) := do
  let (y, rest) ←
    match skipBlanks cs with
    | '-' :: cs => (number none cs).map fun (n, rest) => (-(n : Int), rest)
    | '+' :: cs => (number none cs).map fun (n, rest) => ((n : Int), rest)
    | cs => (number (some 4) cs).map fun (n, rest) => ((n : Int), rest)
  if -2147483648 ≤ y && y ≤ 2147483647 then .ok (y, rest) else .error .outOfRange

def mark (c : Char) (cs : List Char) : Except ReadError (List Char) :=
  match skipBlanks cs with
  | [] => .error .tooShort
  | d :: rest => if d == c then .ok rest else .error .invalid

/-- The fraction of a second, if one is there: nine digits count, more are passed over. -/
def fraction (cs : List Char) : Except ReadError (Nat × List Char) :=
  match cs with
  | '.' :: rest =>
    match number (some 9) rest with
    | .error e => .error e
    | .ok (n, after) =>
      let digits := rest.length - after.length
      .ok (n * Nat.pow 10 (9 - digits), after.dropWhile Char.isDigit)
  | _ => .ok (0, cs)

def twoDigits (high : Char) (cs : List Char) : Except ReadError (Nat × List Char) :=
  match cs with
  | [] => .error .tooShort
  | [c] => .error (if c.utf8Size < 2 then .tooShort else .invalid)
  | a :: b :: rest =>
    if a.isDigit && b.isDigit then
      if a ≤ high then .ok (10 * (a.toNat - '0'.toNat) + (b.toNat - '0'.toNat), rest)
      else .error .outOfRange
    else .error .invalid

def offset (cs : List Char) : Except ReadError (Int × List Char) :=
  match cs with
  | 'Z' :: rest | 'z' :: rest => .ok (0, rest)
  | [] => .error .tooShort
  | sign :: rest => do
    let negative ←
      if sign == '+' then pure false
      else if sign == '-' || sign == '\u2212' then pure true
      else .error .invalid
    let (hours, rest) ← twoDigits '9' rest
    let rest := rest.dropWhile fun c => c == ':' || Text.isBlank c
    let (minutes, rest) ← if rest.isEmpty then pure (0, rest) else twoDigits '5' rest
    let seconds : Int := hours * 3600 + minutes * 60
    .ok (if negative then -seconds else seconds, rest)

/-- The offset, which may also be written as a name of universal time. -/
def zone (cs : List Char) : Except ReadError (Int × List Char) :=
  match cs with
  | a :: b :: c :: rest =>
    if [a, b, c].map Char.toUpper = ['U', 'T', 'C'] then .ok (0, rest) else offset cs
  | _ => offset cs

def ofLocal (date : Time.Date) (second nano : Nat) (seconds : Int) : Except ReadError Instant :=
  if !date.exists || !Time.yearInRange date.year then .error .outOfRange
  else if seconds ≤ -86400 || 86400 ≤ seconds then .error .outOfRange
  else
    let total := date.toDay * 86400 + second - seconds
    let day := total.fdiv 86400
    if Time.yearInRange (Time.Date.ofDay day).year then .ok ⟨day, (total.fmod 86400).toNat, nano⟩
    else .error .impossible

def parse (text : String) : Except ReadError Instant := do
  let (year, cs) ← year text.toList
  let cs ← mark '-' cs
  let (month, cs) ← shortNumber 1 12 cs
  let cs ← mark '-' cs
  let (day, cs) ← shortNumber 1 31 cs
  let cs ←
    match cs with
    | 'T' :: rest | 't' :: rest | ' ' :: rest => .ok rest
    | [] => .error .tooShort
    | _ => .error .invalid
  let (hour, cs) ← shortNumber 0 23 cs
  let cs ← mark ':' cs
  let (minute, cs) ← shortNumber 0 59 cs
  let cs ← mark ':' cs
  let (second, cs) ← shortNumber 0 60 cs
  let (nano, cs) ← fraction cs
  let (seconds, cs) ← zone (skipBlanks cs)
  if !(skipBlanks cs).isEmpty then .error .tooLong
  else
    let second' := hour * 3600 + minute * 60 + min second 59
    ofLocal ⟨year, month, day⟩ second' (if second = 60 then nano + 1000000000 else nano) seconds

end FleetControl.Instant
