import FleetControl.Text.Ranges
import FleetControl.Web.Host

namespace FleetControl.Web

inductive Path where
  /-- One piece of text, to which no segment can be added. -/
  | text (s : String)
  | segments (parts : List String)
deriving DecidableEq

/-- A URL as the URL standard reads it. Those of a special scheme always have a host and a path, and a
backslash separates their segments as a slash does. -/
structure Url where
  scheme : String
  username : String
  password : Option String
  host : Option Host
  /-- The port, unless it is that of the scheme. -/
  port : Option Nat
  path : Path
  query : Option String
  fragment : Option String
deriving DecidableEq

namespace Url

def defaultPort? : String → Option Nat
  | "http" => some 80
  | "https" => some 443
  | "ws" => some 80
  | "wss" => some 443
  | "ftp" => some 21
  | _ => none

def isSpecial (scheme : String) : Bool :=
  scheme == "file" || (defaultPort? scheme).isSome

def isSchemeChar (c : Char) : Bool :=
  c.isAlphanum || c == '+' || c == '-' || c == '.'

def scheme? (cs : List Char) : Option (String × List Char) :=
  match cs with
  | [] => none
  | first :: _ =>
    let name := cs.takeWhile isSchemeChar
    match cs.drop name.length with
    | ':' :: rest =>
      if first.isAlpha then some (String.ofList (name.map Char.toLower), rest) else none
    | _ => none

def endsAuthority (special : Bool) (c : Char) : Bool :=
  c == '/' || c == '?' || c == '#' || (special && c == '\\')

def atUser (cs : List Char) : Option (List Char × List Char) :=
  if cs.contains '@' then
    let after := (cs.reverse.takeWhile (· ≠ '@')).reverse
    some (cs.take (cs.length - after.length - 1), after)
  else none

def user (cs : List Char) : String × Option String :=
  let name := cs.takeWhile (· ≠ ':')
  let rest := (cs.drop name.length).drop 1
  let encoded (cs : List Char) : String := String.ofList (percentEncode userSet cs)
  (encoded name, if rest.isEmpty then none else some (encoded rest))

/-- The text of a host, up to a colon outside of brackets, and what follows it. -/
def hostText (inside : Bool) : List Char → List Char × List Char
  | [] => ([], [])
  | c :: rest =>
    if c == ':' && !inside then ([], c :: rest)
    else
      let (host, after) := hostText (if c == '[' then true else if c == ']' then false else inside) rest
      (c :: host, after)

def portOf (cs : List Char) : Except UrlError (Option Nat) :=
  if cs.isEmpty then .ok none
  else if !cs.all Char.isDigit then .error .port
  else
    match numberIn? 10 cs with
    | some n => if n < 65536 then .ok (some n) else .error .port
    | none => .error .port

/-- The segments of a path with the steps `.` and `..` taken, from the ones so far. -/
def resolve (done : List String) : List (List Char) → List String
  | [] => done
  | part :: rest =>
    let segment := String.ofList (percentEncode pathSet part)
    let ended (done : List String) : List String := if rest.isEmpty then done ++ [""] else done
    if isDoubleDot segment then resolve (ended done.dropLast) rest
    else if isDot segment then resolve (ended done) rest
    else resolve (done ++ [segment]) rest
where
  isDot (segment : String) : Bool := [".", "%2e", "%2E"].contains segment
  isDoubleDot (segment : String) : Bool :=
    ["..", ".%2e", ".%2E", "%2e.", "%2E.", "%2e%2e", "%2e%2E", "%2E%2e", "%2E%2E"].contains segment

def pathParts (special : Bool) (cs : List Char) : List (List Char) :=
  splitAt '/' (if special then cs.map fun c => if c == '\\' then '/' else c else cs)

def segmentsOf (special : Bool) (cs : List Char) : List String :=
  resolve [] (pathParts special cs)

def beforeQuery (cs : List Char) : List Char × List Char :=
  let path := cs.takeWhile fun c => c ≠ '?' && c ≠ '#'
  (path, cs.drop path.length)

def queryAndFragment (special : Bool) (cs : List Char) : Option String × Option String :=
  let query := cs.takeWhile (· ≠ '#')
  let fragment := match cs.drop query.length with
    | _ :: rest => some (String.ofList (percentEncode fragmentSet rest))
    | [] => none
  let query := match query with
    | '?' :: rest =>
      some (String.ofList (percentEncode (if special then specialQuerySet else querySet) rest))
    | _ => none
  (query, fragment)

def afterAuthority (url : Url) (cs : List Char) : Url :=
  let special := isSpecial url.scheme
  let (path, rest) := beforeQuery cs
  let segments :=
    match path with
    | [] => if special then [""] else []
    | c :: more =>
      if c == '/' || (special && c == '\\') then segmentsOf special more else segmentsOf special path
  let (query, fragment) := queryAndFragment special rest
  { url with path := .segments segments, query := query, fragment := fragment }

def readAuthority (scheme : String) (cs : List Char) : Except UrlError Url :=
  let special := isSpecial scheme
  let authority := cs.takeWhile fun c => !endsAuthority special c
  let rest := cs.drop authority.length
  let (username, password, place) :=
    match atUser authority with
    | none => ("", none, authority)
    | some (who, place) =>
      let (username, password) := user who
      (username, password, place)
  let (host, port) := hostText false place
  let named := authority.contains '@'
  if host.isEmpty && (special || named || !port.isEmpty) then .error .emptyHost
  else
    match if special then Host.ofText host else Host.ofPlainText host, portOf (port.drop 1) with
    | .error e, _ => .error e
    | .ok _, .error e => .error e
    | .ok host, .ok port =>
      .ok (afterAuthority
        { scheme := scheme
          username := username
          password := password
          host := some host
          port := port.filter fun n => defaultPort? scheme ≠ some n
          path := .segments []
          query := none
          fragment := none } rest)

def plain (scheme : String) (path : Path) (rest : List Char) : Url :=
  let (query, fragment) := queryAndFragment (isSpecial scheme) rest
  ⟨scheme, "", none, none, none, path, query, fragment⟩

def readFile (cs : List Char) : Except UrlError Url :=
  let isSlash (c : Char) : Bool := c == '/' || c == '\\'
  let local' (cs : List Char) : Url :=
    afterAuthority ⟨"file", "", none, none, none, .segments [], none, none⟩ cs
  match cs with
  | a :: b :: rest =>
    if isSlash a && isSlash b then
      let host := rest.takeWhile fun c => !endsAuthority true c
      if host.isEmpty || isDrive host then .ok (local' rest)
      else
        match Host.ofText host with
        | .error e => .error e
        | .ok (.name "localhost") => .ok (local' (rest.drop host.length))
        | .ok h => .ok { local' (rest.drop host.length) with host := some h }
    else .ok (local' cs)
  | _ => .ok (local' cs)
where
  isDrive : List Char → Bool
    | [letter, mark] => letter.isAlpha && (mark == ':' || mark == '|')
    | _ => false

def readAfterScheme (scheme : String) (cs : List Char) : Except UrlError Url :=
  if scheme == "file" then readFile cs
  else if isSpecial scheme then
    readAuthority scheme (cs.dropWhile fun c => c == '/' || c == '\\')
  else
    match cs with
    | '/' :: '/' :: rest => readAuthority scheme rest
    | '/' :: rest =>
      let (path, rest) := beforeQuery rest
      .ok (plain scheme (.segments (segmentsOf false path)) rest)
    | _ =>
      let (path, rest) := beforeQuery cs
      .ok (plain scheme (.text (String.ofList (percentEncode [] path))) rest)

def isMargin (c : Char) : Bool := c.toNat ≤ 0x20

def isDropped (c : Char) : Bool := c == '\t' || c == '\n' || c == '\r'

def parse (text : String) : Except UrlError Url :=
  let cs := ((text.toList.dropWhile isMargin).reverse.dropWhile isMargin).reverse
  match scheme? (cs.filter (!isDropped ·)) with
  | none => .error .relative
  | some (scheme, rest) => readAfterScheme scheme rest

def hasSegments (url : Url) : Bool :=
  url.path matches .segments _

/-- Segments without an empty one at the end, unless it is all there is. -/
def dropEmptyEnd (segments : List String) : List String :=
  if segments.length ≥ 2 && segments.getLast? = some "" then segments.dropLast else segments

/-- Segments with one more, encoded. The path of one empty segment takes the new one in its place;
the two steps in a path are passed over. -/
def addSegment (special : Bool) (segments : List String) (name : String) : List String :=
  if name = "." || name = ".." then segments
  else
    let before := if segments = [""] then [] else segments
    let set := if special then specialSegmentSet else segmentSet
    let segment := String.ofList (percentEncode set (name.toList.filter (!isDropped ·)))
    if segment = ".." then before.dropLast ++ [""]
    else if segment = "." then before ++ [""]
    else before ++ [segment]

def extend (url : Url) (names : List String) : Url :=
  match url.path with
  | .text _ => url
  | .segments segments =>
    { url with
      path := .segments (names.foldl (addSegment (isSpecial url.scheme)) (dropEmptyEnd segments)) }

def pathText (url : Url) : String :=
  match url.path with
  | .text s => s
  | .segments parts => String.join (parts.map ("/" ++ ·))

def queryText (url : Url) : String := (url.query.map ("?" ++ ·)).getD ""

def target (url : Url) : String :=
  let path := url.pathText
  (if path.isEmpty then "/" else path) ++ url.queryText

def userText (url : Url) : String :=
  match url.password with
  | some password => url.username ++ ":" ++ password ++ "@"
  | none => if url.username.isEmpty then "" else url.username ++ "@"

def placeText (url : Url) : String :=
  (url.host.map Host.render).getD "" ++ (url.port.map fun n => ":" ++ toString n).getD ""

def render (url : Url) : String :=
  url.scheme ++ ":"
    ++ (if url.host.isSome || url.scheme == "file" then "//" ++ url.userText ++ url.placeText else "")
    ++ url.pathText ++ url.queryText ++ (url.fragment.map ("#" ++ ·)).getD ""

end Url

end FleetControl.Web
