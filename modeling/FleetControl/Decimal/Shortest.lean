namespace FleetControl.Decimal

/-- The size of a finite double, as an exact binary fraction. -/
structure Binary where
  significand : Nat
  exponent : Int
  /-- The neighbour below is half as far away as the neighbour above. -/
  narrow : Bool

def Binary.ofBits (bits : UInt64) : Binary :=
  let biased := ((bits >>> 52) &&& 0x7FF).toNat
  let fraction := (bits &&& 0xFFFFFFFFFFFFF).toNat
  if biased = 0 then ⟨fraction, -1074, false⟩
  else ⟨fraction + Nat.pow 2 52, (biased : Int) - 1075, fraction == 0 && 1 < biased⟩

structure Digits where
  digits : Nat
  exponent : Int

inductive Tie where
  | even
  | up

/-- The interval of reals that round to one double, over a common denominator. -/
structure Interval where
  low : Nat
  middle : Nat
  high : Nat
  denominator : Nat
  closed : Bool

def Binary.interval (x : Binary) : Interval :=
  let shift := x.exponent - 2
  let unit := Nat.pow 2 shift.toNat
  { low := (4 * x.significand - if x.narrow then 1 else 2) * unit
    middle := 4 * x.significand * unit
    high := (4 * x.significand + 2) * unit
    denominator := Nat.pow 2 (-shift).toNat
    closed := x.significand % 2 == 0 }

def Interval.contains (i : Interval) (point : Nat) : Bool :=
  (i.low < point || (i.closed && i.low == point))
    && (point < i.high || (i.closed && point == i.high))

/-- The interval with all its points multiplied by `10 ^ (-e)`: the grid of step `10 ^ e` becomes
the multiples of the denominator. -/
def Interval.onGrid (i : Interval) (e : Int) : Interval :=
  let up := Nat.pow 10 (-e).toNat
  { i with
    low := i.low * up
    middle := i.middle * up
    high := i.high * up
    denominator := i.denominator * Nat.pow 10 e.toNat }

def Interval.hit (i : Interval) (tie : Tie) (e : Int) : Option Digits :=
  let g := i.onGrid e
  let below := g.middle / g.denominator
  let above := below + 1
  match g.contains (below * g.denominator), g.contains (above * g.denominator) with
  | false, false => none
  | true, false => some ⟨below, e⟩
  | false, true => some ⟨above, e⟩
  | true, true =>
    match compare (2 * g.middle) ((below + above) * g.denominator), tie with
    | .lt, _ => some ⟨below, e⟩
    | .gt, _ => some ⟨above, e⟩
    | .eq, .up => some ⟨above, e⟩
    | .eq, .even => some ⟨if below % 2 = 0 then below else above, e⟩

def Binary.topExponent (x : Binary) : Int :=
  (((x.significand.log2 : Int) + 1 + x.exponent) * 1233).fdiv 4096 + 1

/-- The fewest digits that read back as `x`, and of those the nearest; where no grid down to twenty
places answers, the exact value. -/
def Binary.shortest (x : Binary) (tie : Tie) : Digits :=
  let i := x.interval
  let found := (List.range 21).findSome? fun (k : Nat) => i.hit tie (x.topExponent - k)
  found.getD ⟨x.significand * Nat.pow 2 x.exponent.toNat * Nat.pow 5 (-x.exponent).toNat,
    min x.exponent 0⟩

end FleetControl.Decimal
