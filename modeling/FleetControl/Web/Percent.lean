import FleetControl.Text.Hex

namespace FleetControl.Web

/-- Whether a character is always encoded: a control character, or one outside ASCII. -/
def isNeverPlain (c : Char) : Bool :=
  c.toNat < 0x20 || 0x7F ≤ c.toNat

def percentByte (b : UInt8) : List Char :=
  ['%', (Nat.digitChar (b.toNat / 16)).toUpper, (Nat.digitChar (b.toNat % 16)).toUpper]

def percentChar (set : List Char) (c : Char) : List Char :=
  if isNeverPlain c || set.contains c then (String.utf8EncodeChar c).flatMap percentByte else [c]

def percentEncode (set : List Char) (cs : List Char) : List Char :=
  cs.flatMap (percentChar set)

def percentDecode : List Char → List UInt8
  | [] => []
  | '%' :: a :: b :: rest =>
    match Text.hexDigit? a, Text.hexDigit? b with
    | some x, some y => (x * 16 + y).toUInt8 :: percentDecode rest
    | _, _ => 0x25 :: percentDecode (a :: b :: rest)
  | c :: rest => String.utf8EncodeChar c ++ percentDecode rest

def fragmentSet : List Char := [' ', '"', '<', '>', '\x60']

def querySet : List Char := [' ', '"', '#', '<', '>']

def specialQuerySet : List Char := '\'' :: querySet

def pathSet : List Char := ['#', '?', '\x7b', '\x7d'] ++ fragmentSet

def segmentSet : List Char := ['/', '%'] ++ pathSet

def specialSegmentSet : List Char := '\\' :: segmentSet

def userSet : List Char := ['/', ':', ';', '=', '@', '[', '\\', ']', '^', '|'] ++ pathSet

end FleetControl.Web
