import FleetControl.Text.Utf8
import FleetControl.Web.Percent

namespace FleetControl.Web

/-- A name or value as it is meant: a plus sign is a blank, and percent signs are read. -/
def parameterText (cs : List Char) : String :=
  Text.decodeLossy (percentDecode (cs.map fun c => if c == '+' then ' ' else c))

def parameter (cs : List Char) : String × String :=
  let name := cs.takeWhile (· ≠ '=')
  (parameterText name, parameterText ((cs.drop name.length).drop 1))

def parameters (query : String) : List (String × String) :=
  ((query.toList.splitOn '&').filter (!·.isEmpty)).map parameter

end FleetControl.Web
