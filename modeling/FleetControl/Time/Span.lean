namespace FleetControl

abbrev Span := Nat

namespace Span

def thousandths (n : Nat) : String :=
  let digits := [n / 100 % 10, n / 10 % 10, n % 10].map Nat.digitChar
  String.ofList (digits.reverse.dropWhile (· == '0')).reverse

/-- The text of a span: in seconds from one second on, in milliseconds below. -/
def render (ms : Span) : String :=
  if ms = 0 then "0ns"
  else if ms < 1000 then toString ms ++ "ms"
  else if ms % 1000 = 0 then toString (ms / 1000) ++ "s"
  else toString (ms / 1000) ++ "." ++ thousandths (ms % 1000) ++ "s"

end Span

end FleetControl
