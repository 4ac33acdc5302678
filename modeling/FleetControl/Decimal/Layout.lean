import FleetControl.Decimal.Shortest

namespace FleetControl.Decimal

structure Layout where
  tie : Tie
  /-- Numbers below `10 ^ k` and not below `10 ^ (l - 1)` are written positionally, for the pair
  `(l, k)`; without bounds, all are. -/
  plainRange : Option (Int × Int)
  pointZero : Bool
  notANumber : String
  infinite : String

def Layout.plain : Layout where
  tie := .up
  plainRange := none
  pointZero := false
  notANumber := "NaN"
  infinite := "inf"

/-- JSON text turns to an exponent at `10 ^ 16` and below `10 ^ -5`; a number it cannot write is
`null`. -/
def Layout.json : Layout where
  tie := .even
  plainRange := some (-4, 16)
  pointZero := true
  notANumber := "null"
  infinite := "null"

def positional (pointZero : Bool) (d : Digits) : String :=
  let text := (toString d.digits).toList
  let point : Int := text.length + d.exponent
  if 0 ≤ d.exponent then
    String.ofList (text ++ List.replicate d.exponent.toNat '0') ++ if pointZero then ".0" else ""
  else if 0 < point then
    String.ofList (text.take point.toNat ++ '.' :: text.drop point.toNat)
  else
    String.ofList ('0' :: '.' :: (List.replicate (-point).toNat '0' ++ text))

def scientific (d : Digits) : String :=
  let text := (toString d.digits).toList
  let exponent : Int := text.length + d.exponent - 1
  let fraction := if text.length ≤ 1 then [] else '.' :: text.drop 1
  let sign := if exponent < 0 then "-" else "+"
  String.ofList (text.take 1 ++ fraction) ++ "e" ++ sign ++ toString exponent.natAbs

def Layout.finite (l : Layout) (negative : Bool) (size : Binary) : String :=
  let sign := if negative then "-" else ""
  if size.significand = 0 then sign ++ if l.pointZero then "0.0" else "0"
  else
    let d := size.shortest l.tie
    let point : Int := (toString d.digits).length + d.exponent
    let plainly := l.plainRange.all fun (low, high) => low ≤ point && point ≤ high
    sign ++ if plainly then positional l.pointZero d else scientific d

def Layout.render (l : Layout) (x : Float) : String :=
  if x.isNaN then l.notANumber
  else
    let negative := x.toBits >>> 63 == 1
    if x.isInf then (if negative then "-" else "") ++ l.infinite
    else l.finite negative (Binary.ofBits x.toBits)

def sentence (x : Float) : String :=
  Layout.plain.render x

end FleetControl.Decimal
