import FleetControl.Command.Request
import FleetControl.Device.Basic
import FleetControl.Device.Feed
import FleetControl.Web.Base64
import FleetControl.Web.Url

namespace FleetControl.Device

structure Client where
  base : Web.Url
  key : Option String

inductive ServiceCall where
  | health
  | devices
  | device (id : String)
  | submit (r : Command.Request)
  | command (id : Identifier)
  | cancel (id : Identifier)
  | telemetry (id : String)

namespace ServiceCall

def segments : ServiceCall → List String
  | .health => ["health"]
  | .devices => ["devices"]
  | .device id => ["devices", id]
  | .submit _ => ["commands"]
  | .command id => ["commands", id.render]
  | .cancel id => ["commands", id.render, "cancel"]
  | .telemetry id => ["devices", id, "telemetry", "stream"]

def method : ServiceCall → String
  | .submit _ => "POST"
  | .cancel _ => "POST"
  | _ => "GET"

def body : ServiceCall → Option Json
  | .submit r => some r.toJson
  | _ => none

def accepted : ServiceCall → String
  | .telemetry _ => "text/event-stream"
  | _ => "application/json"

end ServiceCall

structure HttpRequest where
  method : String
  url : Web.Url
  headers : List (String × String)
  body : Option Json

def HttpRequest.line (r : HttpRequest) : String :=
  r.method ++ " " ++ r.url.target ++ " HTTP/1.1"

structure HttpReply where
  status : Nat
  body : List UInt8
  /-- Whether the connection ended before the whole body came. -/
  cut : Bool

namespace Client

def isHeaderChar (c : Char) : Bool :=
  c == '\t' || (0x20 ≤ c.toNat && c.toNat ≠ 0x7F)

def ofEndpoint (endpoint : String) (key : Option String) : Except CallError Client :=
  match Web.Url.parse (String.ofList (Text.trim endpoint.toList)) with
  | .error e => .error (.transport ("invalid endpoint '" ++ endpoint ++ "': " ++ e.message))
  | .ok base =>
    if !base.hasSegments then
      .error (.transport ("endpoint '" ++ endpoint ++ "' cannot carry a path"))
    else if (key.map fun k => k.toList.all isHeaderChar) = some false then
      .error (.transport "invalid API key: failed to parse header value")
    else .ok ⟨base, key⟩

def url (c : Client) (call : ServiceCall) : Web.Url :=
  c.base.extend call.segments

def decoded (s : String) : String :=
  (Text.decode? (Web.percentDecode s.toList)).getD ""

/-- The header that says who calls: the user of the URL, or else the key. -/
def authorization (c : Client) : List (String × String) :=
  if c.base.username.isEmpty && c.base.password.isNone then
    (c.key.map fun key => ("authorization", "Bearer " ++ key)).toList
  else
    let user := decoded c.base.username ++ ":" ++ (c.base.password.map decoded).getD ""
    [("authorization", "Basic " ++ String.ofList (Web.base64 (Text.encode user)))]

def request (c : Client) (call : ServiceCall) : HttpRequest where
  method := call.method
  url := { c.url call with username := "", password := none }
  headers :=
    [("accept", call.accepted), ("content-type", "application/json")] ++ c.authorization
  body := call.body

end Client

namespace HttpReply

def unreadable : String := "error decoding response body"

def hasNoBody (status : Nat) : Bool := status == 204 || status == 304

def trimmed (r : HttpReply) : HttpReply :=
  if hasNoBody r.status then { r with body := [], cut := false } else r

def check (r : HttpReply) : Except CallError Unit :=
  if 200 ≤ r.status && r.status < 300 then .ok ()
  else .error (.status r.status (if r.cut then "" else Text.decodeLossy r.body))

def json {α : Type} (r : HttpReply) (reader : Json.Reader α) : Except CallError α :=
  if r.cut then .error (.decode unreadable)
  else
    match (Text.decode? r.body).map (Json.readText reader) with
    | some (.ok a) => .ok a
    | _ => .error (.decode unreadable)

/-- The body as any value: JSON where it can be read, else its text, and null when it is empty. -/
def value (r : HttpReply) : Except CallError Json :=
  if r.cut then .error (.decode unreadable)
  else if r.body.isEmpty then .ok .null
  else
    match (Text.decode? r.body).map Json.parse with
    | some (.ok v) => .ok v
    | _ => .ok (.text (Text.decodeLossy r.body))

end HttpReply

/-- The items of an event stream whose body comes in chunks, one list for each chunk; an error of the
connection comes last and ends it. -/
def streamItems (chunks : List (List UInt8)) (error : Option String) : List (List Item) :=
  let results := Telemetry.Decoder.decodeChunks Telemetry.Decoder.drainPayloads .empty chunks
  results.map (List.map fun r => r.mapError .stream)
    ++ (error.map fun e => [.error (.transport e)]).toList

inductive ServiceAnswer where
  | value (v : Json)
  | items (items : List Item)

def ServiceCall.read (call : ServiceCall) (reply : HttpReply) : Except CallError ServiceAnswer :=
  let r := reply.trimmed
  match r.check with
  | .error e => .error e
  | .ok _ =>
    match call with
    | .health => r.value.map .value
    | .submit _ => r.value.map .value
    | .devices => (r.json (.list Device.reader)).map fun ds => .value (.list (ds.map Device.toJson))
    | .device _ => (r.json Device.reader).map fun d => .value d.toJson
    | .command _ => (r.json .any).map .value
    | .cancel _ => .ok (.value .null)
    | .telemetry _ =>
      .ok (.items (streamItems [r.body] (if r.cut then some HttpReply.unreadable else none)).flatten)

def Client.noReply (c : Client) (call : ServiceCall) : CallError :=
  .transport ("error sending request for url (" ++ (c.request call).url.render ++ ")")

def Client.answer (c : Client) (call : ServiceCall) (reply : Option HttpReply) :
    Except CallError ServiceAnswer :=
  match reply with
  | none => .error (c.noReply call)
  | some reply => call.read reply

end FleetControl.Device
