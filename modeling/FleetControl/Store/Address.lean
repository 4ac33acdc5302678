import FleetControl.Store.Error
import FleetControl.Text.Utf8
import FleetControl.Text.Whole
import FleetControl.Web.Parameters
import FleetControl.Web.Url

namespace FleetControl.Store

inductive Encryption where
  | disable
  | allow
  | prefer
  | require
  | verifyIssuer
  | verifyHost
deriving DecidableEq

def Encryption.ofName? (name : String) : Option Encryption :=
  match String.ofList (name.toList.map Char.toLower) with
  | "disable" => some .disable
  | "allow" => some .allow
  | "prefer" => some .prefer
  | "require" => some .require
  | "verify-ca" => some .verifyIssuer
  | "verify-full" => some .verifyHost
  | _ => none

structure Address where
  host : String
  port : Nat
  user : String
  password : Option String
  database : Option String
  encryption : Encryption
  rememberedStatements : Nat
deriving DecidableEq

namespace Address

def standard : Address := ⟨"localhost", 5432, "", none, none, .prefer, 100⟩

def decoded (part : String) : Except Error String :=
  let bytes := Web.percentDecode part.toList
  match Text.decode? bytes with
  | some s => .ok s
  | none => .error (.configuration ((Text.firstProblem bytes).elim "" Text.Problem.message))

def numberUpTo (bound : Nat) (text : String) : Except Error Nat :=
  (Text.natUpTo bound text).mapError fun e => .configuration e.message

def isNumeric (text : String) : Bool :=
  let cs := text.toList
  (Web.Host.embedded? cs).isSome
    || match Web.Host.readAddress6 cs with
      | .ok _ => true
      | .error _ => false

/-- An address as a parameter changes it. A parameter of an unknown name changes nothing. -/
def withParameter (a : Address) (name value : String) : Except Error Address :=
  match name with
  | "sslmode" | "ssl-mode" =>
    match Encryption.ofName? value with
    | some encryption => .ok { a with encryption := encryption }
    | none => .error (.unknownEncryption value)
  | "statement-cache-capacity" =>
    (numberUpTo (UInt64.size - 1) value).map fun n => { a with rememberedStatements := n }
  | "host" => .ok { a with host := value }
  | "hostaddr" =>
    if isNumeric value then .ok { a with host := value }
    else .error (.configuration "invalid IP address syntax")
  | "port" => (numberUpTo (UInt16.size - 1) value).map fun n => { a with port := n }
  | "dbname" => .ok { a with database := some value }
  | "user" => .ok { a with user := value }
  | "password" => .ok { a with password := some value }
  | _ => .ok a

def ofParts (url : Web.Url) : Except Error Address := do
  let host := (url.host.map Web.Host.render).getD ""
  let host ← if host.startsWith "%2F" || host.startsWith "%2f" then decoded host else .ok host
  let user ← decoded url.username
  let password ← (url.password.map decoded).elim (.ok none) (·.map some)
  let database ← decoded (String.ofList (url.pathText.toList.dropWhile (· == '/')))
  return { standard with
    host := if host.isEmpty then standard.host else host
    port := url.port.getD standard.port
    user := user
    password := password
    database := if database.isEmpty then none else some database }

def ofText (text : String) : Except Error Address :=
  match Web.Url.parse text with
  | .error e => .error (.configuration e.message)
  | .ok url => do
    let start ← ofParts url
    (Web.parameters (url.query.getD "")).foldlM (fun a (name, value) => a.withParameter name value)
      start

end Address

end FleetControl.Store
