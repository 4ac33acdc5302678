import FleetControl.Decimal.Reading
import FleetControl.Time.Calendar
import FleetControl.Toml.Text

namespace FleetControl.Toml

/-- Digits without the underscores that stand between them; no other place is allowed for one. -/
def digitsOf? (isDigit : Char → Bool) (cs : List Char) : Option (List Char) :=
  let groups := cs.splitOn '_'
  if groups.all fun group => !group.isEmpty && group.all isDigit then some groups.flatten else none

/-- The digits of a decimal whole number, which do not begin with a zero in vain. -/
def wholeDigits? (cs : List Char) : Option (List Char) :=
  match digitsOf? Char.isDigit cs with
  | some ('0' :: _ :: _) => none
  | digits => digits

def bounded? (n : Int) : Option Value :=
  if -9223372036854775808 ≤ n && n ≤ 9223372036854775807 then some (.int n) else none

def based? (base : Nat) (cs : List Char) : Option Value :=
  let digit? (c : Char) : Option Nat := (FleetControl.Text.hexDigit? c).filter (· < base)
  match digitsOf? (fun c => (digit? c).isSome) cs with
  | none => none
  | some digits => bounded? (digits.foldl (fun (n : Nat) c => n * base + (digit? c).getD 0) 0 : Nat)

def signed : List Char → Bool × List Char
  | '-' :: rest => (true, rest)
  | '+' :: rest => (false, rest)
  | cs => (false, cs)

def double? (negative : Bool) (cs : List Char) : Option Value :=
  let isMark (c : Char) : Bool := c == 'e' || c == 'E'
  let (mantissa, rest) := cs.span (!isMark ·)
  let (whole, fraction) := mantissa.span (· != '.')
  let fractionDigits? : Option (List Char) :=
    match fraction with
    | [] => some []
    | _ :: digits => digitsOf? Char.isDigit digits
  let exponent? : Option Int :=
    match rest with
    | [] => some 0
    | _ :: exponent =>
      let (below, digits) := signed exponent
      (digitsOf? Char.isDigit digits).map fun digits =>
        if below then -(Decimal.natOfDigits digits : Int) else Decimal.natOfDigits digits
  match wholeDigits? whole, fractionDigits?, exponent? with
  | some whole, some fraction, some exponent =>
    let x := Decimal.toDouble negative (Decimal.natOfDigits (whole ++ fraction))
      (exponent - fraction.length)
    if x.isFinite then some (.double x) else none
  | _, _, _ => none

def number? (cs : List Char) : Option Value :=
  match cs with
  | '0' :: 'x' :: rest => based? 16 rest
  | '0' :: 'o' :: rest => based? 8 rest
  | '0' :: 'b' :: rest => based? 2 rest
  | _ =>
    let (negative, size) := signed cs
    match String.ofList size with
    | "inf" => some (.double (if negative then -1.0 / 0.0 else 1.0 / 0.0))
    | "nan" => some (.double (0.0 / 0.0))
    | _ =>
      match wholeDigits? size with
      | some digits =>
        let n : Int := Decimal.natOfDigits digits
        bounded? (if negative then -n else n)
      | none => double? negative size

def twoDigits? : List Char → Option Nat
  | [a, b] => if a.isDigit && b.isDigit then some (Decimal.natOfDigits [a, b]) else none
  | _ => none

def isDate (cs : List Char) : Bool :=
  match cs with
  | [a, b, c, d, '-', e, f, '-', g, h] =>
    match [a, b, c, d].all Char.isDigit, twoDigits? [e, f], twoDigits? [g, h] with
    | true, some month, some day =>
      Time.Date.exists ⟨Decimal.natOfDigits [a, b, c, d], month, day⟩
    | _, _, _ => false
  | _ => false

def timeText? (cs : List Char) : Option (List Char) :=
  let (clock, fraction) := cs.span (· != '.')
  match clock with
  | [a, b, ':', c, d, ':', e, f] =>
    match twoDigits? [a, b], twoDigits? [c, d], twoDigits? [e, f] with
    | some hour, some minute, some second =>
      if hour < 24 && minute < 60 && second < 61 then
        match fraction with
        | [] => some clock
        | _ :: digits =>
          if digits.isEmpty || !digits.all Char.isDigit then none
          else
            let shown := ((digits.take 9).reverse.dropWhile (· == '0')).reverse
            some (clock ++ if shown.isEmpty then [] else '.' :: shown)
      else none
    | _, _, _ => none
  | _ => none

def zonedText? (cs : List Char) : Option (List Char) :=
  let (time, zone) := cs.span fun c => !(c == 'Z' || c == 'z' || c == '+' || c == '-')
  match zone with
  | [] => timeText? time
  | [c] => if c == 'Z' || c == 'z' then (timeText? time).map (· ++ ['Z']) else none
  | sign :: offset =>
    match offset with
    | [a, b, ':', c, d] =>
      match sign == '+' || sign == '-', twoDigits? [a, b], twoDigits? [c, d] with
      | true, some hours, some minutes =>
        if hours < 24 && minutes < 60 then (timeText? time).map (· ++ zone) else none
      | _, _, _ => none
    | _ => none

def moment? (cs : List Char) : Option Value :=
  let day := cs.take 10
  if isDate day then
    match cs.drop 10 with
    | [] => some (.moment (String.ofList day))
    | mark :: time =>
      if mark == 'T' || mark == 't' || mark == ' ' then
        (zonedText? time).map fun time => .moment (String.ofList (day ++ 'T' :: time))
      else none
  else (timeText? cs).map fun time => .moment (String.ofList time)

def isScalarChar (c : Char) : Bool :=
  c.isAlphanum || c == '+' || c == '-' || c == '_' || c == '.' || c == ':'

/-- The run of characters that makes up a value, and what follows it. -/
def scalarRun (cs : List Char) : List Char × List Char :=
  let (run, rest) := cs.span isScalarChar
  match isDate run, rest with
  | true, ' ' :: c :: more =>
    if c.isDigit then
      let (time, rest) := (c :: more).span isScalarChar
      (run ++ ' ' :: time, rest)
    else (run, rest)
  | _, _ => (run, rest)

def scalar (cs : List Char) : Except Stop (Value × List Char) :=
  let (run, rest) := scalarRun cs
  match String.ofList run with
  | "true" => .ok (.bool true, rest)
  | "false" => .ok (.bool false, rest)
  | _ =>
    match (number? run).or (moment? run) with
    | some v => .ok (v, rest)
    | none => stopAt cs "invalid value"

end FleetControl.Toml
