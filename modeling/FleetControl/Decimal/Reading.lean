namespace FleetControl.Decimal

def natOfDigits (digits : List Char) : Nat :=
  digits.foldl (fun n c => 10 * n + (c.toNat - '0'.toNat)) 0

/-- The double nearest to `digits · 10 ^ exponent`. Powers of ten far outside the range of doubles
are cut off first, where the answer no longer depends on them. -/
def toDouble (negative : Bool) (digits : Nat) (exponent : Int) : Float :=
  let size : Float :=
    if digits = 0 then 0.0
    else
      let point := (digits.log2 : Int) * 30103 / 100000 + exponent
      if 400 < point then 1.0 / 0.0
      else if point < -800 then 0.0
      else Float.ofScientific digits (exponent < 0) exponent.natAbs
  if negative then -size else size

def exponent? (cs : List Char) : Option Int :=
  let (negative, digits) :=
    match cs with
    | '-' :: rest => (true, rest)
    | '+' :: rest => (false, rest)
    | _ => (false, cs)
  if digits.isEmpty || !digits.all Char.isDigit then none
  else some (if negative then -(natOfDigits digits : Int) else natOfDigits digits)

/-- The double that a text without a sign tells. Digits may be missing before the point or after it,
but not on both sides. -/
def unsigned? (negative : Bool) (cs : List Char) : Option Float :=
  let (whole, rest) := cs.span Char.isDigit
  let (fraction, rest) :=
    match rest with
    | '.' :: rest => rest.span Char.isDigit
    | _ => ([], rest)
  let digits := whole ++ fraction
  let power : Option Int :=
    match rest with
    | [] => some 0
    | 'e' :: rest | 'E' :: rest => exponent? rest
    | _ => none
  if digits.isEmpty then none
  else power.map fun p => toDouble negative (natOfDigits digits) (p - fraction.length)

/-- The double that a text tells: an optional sign, then a decimal or a name, in any case of its
letters, for what is not finite. -/
def parse? (text : String) : Option Float :=
  let (negative, cs) :=
    match text.toList with
    | '-' :: rest => (true, rest)
    | '+' :: rest => (false, rest)
    | cs => (false, cs)
  match String.ofList (cs.map Char.toLower) with
  | "inf" | "infinity" => some (if negative then -1.0 / 0.0 else 1.0 / 0.0)
  | "nan" => some (0.0 / 0.0)
  | _ => unsigned? negative cs

end FleetControl.Decimal
