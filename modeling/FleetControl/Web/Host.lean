import FleetControl.Text.Utf8
import FleetControl.Web.Percent

namespace FleetControl.Web

inductive UrlError where
  | relative
  | emptyHost
  | port
  | address4
  | address6
  | domain
  | hostCharacter
deriving DecidableEq

def UrlError.message : UrlError → String
  | .relative => "relative URL without a base"
  | .emptyHost => "empty host"
  | .port => "invalid port number"
  | .address4 => "invalid IPv4 address"
  | .address6 => "invalid IPv6 address"
  | .domain => "invalid international domain name"
  | .hostCharacter => "invalid domain character"

inductive Host where
  | name (text : String)
  | address4 (value : Nat)
  | address6 (pieces : List Nat)
deriving DecidableEq

def splitAt (mark : Char) (cs : List Char) : List (List Char) :=
  cs.splitOn mark

def digitIn? (base : Nat) (c : Char) : Option Nat :=
  (Text.hexDigit? c).filter (· < base)

def numberIn? (base : Nat) (cs : List Char) : Option Nat :=
  cs.foldlM (fun n c => (digitIn? base c).map (n * base + ·)) 0

namespace Host

/-- The number of a part of an address of version 4: hexadecimal after `0x`, octal after another `0`,
else decimal. -/
def part4? : List Char → Option Nat
  | [] => none
  | '0' :: 'x' :: rest => numberIn? 16 rest
  | '0' :: 'X' :: rest => numberIn? 16 rest
  | '0' :: c :: rest => numberIn? 8 (c :: rest)
  | cs => numberIn? 10 cs

def labels (cs : List Char) : List (List Char) :=
  let parts := splitAt '.' cs
  if parts.getLast? = some [] then parts.dropLast else parts

/-- Whether the last part of a name is a number, so that the name has to be an address. -/
def endsInNumber (cs : List Char) : Bool :=
  match (labels cs).getLast? with
  | none => false
  | some last => (!last.isEmpty && last.all Char.isDigit) || (part4? last).isSome

/-- The address that the numbers of its parts tell; the last part fills what is left. -/
def address4? (parts : List Nat) : Option Nat :=
  match parts.reverse with
  | [] => none
  | last :: before =>
    let room := Nat.pow 256 (4 - before.length)
    if 3 < before.length || before.any (255 < ·) || room ≤ last then none
    else some (before.reverse.foldl (fun n p => n * 256 + p) 0 * room + last)

def readAddress4 (cs : List Char) : Except UrlError Host :=
  match (labels cs).mapM part4? with
  | none => .error .address4
  | some parts =>
    match address4? parts with
    | none => .error .address4
    | some value => .ok (.address4 value)

def piece (cs : List Char) : Nat × Nat × List Char :=
  let digits := (cs.take 4).takeWhile fun c => (Text.hexDigit? c).isSome
  ((numberIn? 16 digits).getD 0, digits.length, cs.drop digits.length)

def decimalPart? (cs : List Char) : Option Nat :=
  if cs.isEmpty || 3 < cs.length || (cs.head? = some '0' && cs ≠ ['0']) || !cs.all Char.isDigit then
    none
  else (numberIn? 10 cs).filter (· ≤ 255)

def embedded? (cs : List Char) : Option (List Nat) :=
  match (splitAt '.' cs).mapM decimalPart? with
  | some [a, b, c, d] => some [a * 256 + b, c * 256 + d]
  | _ => none

/-- The pieces of one side of an address of version 6, separated by colons; the last may be told by
four decimal numbers. -/
def side? (cs : List Char) : Option (List Nat) :=
  if cs.isEmpty then some []
  else
    let parts := splitAt ':' cs
    let plain (part : List Char) : Option Nat :=
      match piece part with
      | (n, length, []) => if length = 0 then none else some n
      | _ => none
    match parts.dropLast.mapM plain, parts.getLast? with
    | some before, some last =>
      if last.contains '.' then (embedded? last).map (before ++ ·)
      else (plain last).map fun n => before ++ [n]
    | _, _ => none

def atDoubleColon (cs : List Char) : Option (List Char × List Char) :=
  go [] cs
where
  go (before : List Char) : List Char → Option (List Char × List Char)
    | ':' :: ':' :: rest => some (before.reverse, rest)
    | c :: rest => go (c :: before) rest
    | [] => none

def readAddress6 (cs : List Char) : Except UrlError Host :=
  match atDoubleColon cs with
  | none =>
    match side? cs with
    | some pieces => if pieces.length = 8 then .ok (.address6 pieces) else .error .address6
    | none => .error .address6
  | some (before, after) =>
    match side? before, side? after with
    | some high, some low =>
      if high.length + low.length < 8 && !before.contains '.' then
        .ok (.address6 (high ++ List.replicate (8 - high.length - low.length) 0 ++ low))
      else .error .address6
    | _, _ => .error .address6

def forbidden : List Char :=
  [' ', '%', '#', '/', ':', '<', '>', '?', '@', '[', '\\', ']', '^', '\x60', '\x7b', '|', '\x7d']

/-- What a character becomes in a name: capitals become small, wide letters narrow, other full stops
a full stop, and characters that show nothing vanish. Some characters are not allowed at all. -/
def mapped (c : Char) : Option (List Char) :=
  let n := c.toNat
  if n < 0x80 then some [c.toLower]
  else if n < 0xA0 then none
  else if n = 0xAD || n = 0x200B || n = 0x2060 || n = 0xFEFF || (0xFE00 ≤ n && n ≤ 0xFE0F) then some []
  else if n = 0x3002 || n = 0xFF0E || n = 0xFF61 then some ['.']
  else if 0xFF01 ≤ n && n ≤ 0xFF5E then some [(Char.ofNat (n - 0xFEE0)).toLower]
  else if n = 0xA0 || (0x2000 ≤ n && n ≤ 0x200A) || n = 0x202F || n = 0x205F || n = 0x3000 then none
  else if (0x200E ≤ n && n ≤ 0x200F) || (0x2028 ≤ n && n ≤ 0x202E) || (0x2061 ≤ n && n ≤ 0x206F) then
    none
  else if (0xE000 ≤ n && n ≤ 0xF8FF) || (0xFDD0 ≤ n && n ≤ 0xFDEF) || (0xFFF0 ≤ n && n ≤ 0xFFFF) then
    none
  else if 0xE0000 ≤ n || n % 0x10000 ≥ 0xFFFE then none
  else some [c]

def threshold (k bias : Nat) : Nat :=
  if k ≤ bias + 1 then 1 else min (k - bias) 26

def adapt (first : Bool) (delta count : Nat) : Nat :=
  let delta := if first then delta / 700 else delta / 2
  let (k, delta) := shrink 0 (delta + delta / count) 16
  k + 36 * delta / (delta + 38)
where
  shrink (k delta : Nat) : Nat → Nat × Nat
    | 0 => (k, delta)
    | fuel + 1 => if 455 < delta then shrink (k + 36) (delta / 35) fuel else (k, delta)

def labelDigit? (c : Char) : Option Nat :=
  if 'a' ≤ c && c ≤ 'z' then some (c.toNat - 'a'.toNat)
  else if '0' ≤ c && c ≤ '9' then some (c.toNat - '0'.toNat + 26)
  else none

/-- Decodes the digits of an encoded label. Each group of digits tells how far the place of the next
character is from `old`, the place after the one before, counted over all places and characters from
`code` on. -/
def decodeDigits (out : List Char) (code old bias step weight k : Nat) :
    List Char → Option (List Char)
  | [] => if k = 36 then some out else none
  | c :: rest =>
    match labelDigit? c with
    | none => none
    | some digit =>
      let step := step + digit * weight
      let t := threshold k bias
      if t ≤ digit then decodeDigits out code old bias step (weight * (36 - t)) (k + 36) rest
      else
        let count := out.length + 1
        let code := code + (old + step) / count
        let place := (old + step) % count
        if 0x10FFFF < code || (0xD800 ≤ code && code ≤ 0xDFFF) then none
        else
          let out := out.take place ++ Char.ofNat code :: out.drop place
          decodeDigits out code (place + 1) (adapt (old = 0) step count) 0 1 36 rest

def decodeLabel? (cs : List Char) : Option (List Char) :=
  let plain := (cs.reverse.dropWhile (· ≠ '-')).drop 1
  let digits := (cs.reverse.takeWhile (· ≠ '-')).reverse
  decodeDigits plain.reverse 128 0 72 0 1 36 digits

/-- Whether a label of a name may stand: one that is encoded has to hold a character outside ASCII, and
none that would become another. -/
def isLabel (label : List Char) : Bool :=
  match label with
  | 'x' :: 'n' :: '-' :: '-' :: encoded =>
    (decodeLabel? encoded).any fun cs =>
      cs.any (fun c => 0x80 ≤ c.toNat) && cs.all fun c => mapped c == some [c]
  | _ => true

def ofText (cs : List Char) : Except UrlError Host :=
  match cs with
  | '[' :: rest =>
    if rest.getLast? = some ']' then readAddress6 rest.dropLast else .error .address6
  | _ =>
    match Text.decode? (percentDecode cs) with
    | none => .error .domain
    | some decoded =>
      match decoded.toList.mapM mapped with
      | none => .error .domain
      | some parts =>
        let name := parts.flatten
        if name.any fun c => c.toNat < 0x20 || c.toNat = 0x7F || forbidden.contains c then
          .error .domain
        else if !(splitAt '.' name).all isLabel then .error .domain
        else if name.isEmpty then .error .emptyHost
        else if endsInNumber name then readAddress4 name
        else .ok (.name (String.ofList name))

def forbiddenPlain : List Char :=
  ['\x00', '\t', '\n', '\r', ' ', '#', '/', ':', '<', '>', '?', '@', '[', '\\', ']', '^', '|']

def ofPlainText (cs : List Char) : Except UrlError Host :=
  match cs with
  | '[' :: rest =>
    if rest.getLast? = some ']' then readAddress6 rest.dropLast else .error .address6
  | _ =>
    if cs.any forbiddenPlain.contains then .error .hostCharacter
    else .ok (.name (String.ofList (percentEncode [] cs)))

def hexText (n : Nat) : String := String.ofList (Nat.toDigits 16 n)

def zeros (pieces : List Nat) : Nat := (pieces.takeWhile (· = 0)).length

/-- The place and length of the longest run of zeros, the first of several. -/
def longestRun (i : Nat) : List Nat → Nat × Nat
  | [] => (i, 0)
  | p :: rest =>
    let here := zeros (p :: rest)
    let (j, later) := longestRun (i + 1) rest
    if later ≤ here then (i, here) else (j, later)

def render : Host → String
  | .name text => text
  | .address4 n =>
    ".".intercalate ([n / 16777216, n / 65536 % 256, n / 256 % 256, n % 256].map toString)
  | .address6 pieces =>
    let (i, length) := longestRun 0 pieces
    let inner :=
      if length < 2 then ":".intercalate (pieces.map hexText)
      else
        ":".intercalate ((pieces.take i).map hexText) ++ "::"
          ++ ":".intercalate ((pieces.drop (i + length)).map hexText)
    "[" ++ inner ++ "]"

end Host

end FleetControl.Web
