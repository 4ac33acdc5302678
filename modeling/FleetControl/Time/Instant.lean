import FleetControl.Time.Calendar

namespace FleetControl

/-- A day, counted from 1 January 1970, with the seconds from its beginning and the nanoseconds from
the beginning of that second. A leap second is told by the last second of its minute with the
nanoseconds of a whole second and more. Nothing here bounds the two counts. -/
structure Instant where
  day : Int
  second : Nat
  nano : Nat
deriving DecidableEq, Inhabited

namespace Instant

def rank (t : Instant) : Int :=
  (t.day * 86400 + t.second) * 2000000000 + t.nano

def before (a b : Instant) : Bool :=
  a.rank < b.rank

/-- The nanoseconds from `a` to `b`. A leap second that lies between the two times of day counts. -/
def nanosSince (b a : Instant) : Int :=
  let leap : Int :=
    if a.second < b.second && 1000000000 ≤ a.nano then 1
    else if b.second < a.second && 1000000000 ≤ b.nano then -1
    else 0
  ((b.day - a.day) * 86400 + (b.second - a.second) + leap) * 1000000000 + ((b.nano : Int) - a.nano)

/-- The seconds from `a` to `b`, in whole milliseconds toward zero. -/
def secondsSince (b a : Instant) : Float :=
  Float.ofInt ((b.nanosSince a).tdiv 1000000) / 1000.0

def padded (width n : Nat) : String :=
  let text := toString n
  String.ofList (List.replicate (width - text.length) '0') ++ text

def yearText (year : Int) : String :=
  if 0 ≤ year && year ≤ 9999 then padded 4 year.toNat
  else (if year < 0 then "-" else "+") ++ padded 4 year.natAbs

def fractionText (nano : Nat) : String :=
  if nano = 0 then ""
  else if nano % 1000000 = 0 then "." ++ padded 3 (nano / 1000000)
  else if nano % 1000 = 0 then "." ++ padded 6 (nano / 1000)
  else "." ++ padded 9 nano

def dateTimeText (mark : String) (t : Instant) : String :=
  let date := Time.Date.ofDay t.day
  let second := t.second % 60 + t.nano / 1000000000
  yearText date.year ++ "-" ++ padded 2 date.month ++ "-" ++ padded 2 date.day ++ mark
    ++ padded 2 (t.second / 3600) ++ ":" ++ padded 2 (t.second / 60 % 60) ++ ":"
    ++ padded 2 second ++ fractionText (t.nano % 1000000000)

def render (t : Instant) : String :=
  dateTimeText "T" t ++ "Z"

def renderWithOffset (t : Instant) : String :=
  dateTimeText "T" t ++ "+00:00"

def sentence (t : Instant) : String :=
  dateTimeText " " t ++ " UTC"

def ofMicrosSince2000 (micros : Int) : Instant :=
  let total := micros + 10957 * 86400 * 1000000
  let seconds := total.fdiv 1000000
  ⟨seconds.fdiv 86400, (seconds.fmod 86400).toNat, (total.fmod 1000000).toNat * 1000⟩

def ofMillis (ms : Nat) : Instant :=
  ⟨ms / 86400000, ms / 1000 % 86400, ms % 1000 * 1000000⟩

/-- The whole microseconds from 1 January 2000, toward zero. -/
def microsSince2000 (t : Instant) : Int :=
  (t.nanosSince ⟨10957, 0, 0⟩).tdiv 1000

end Instant

end FleetControl
