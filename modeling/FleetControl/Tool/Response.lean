import FleetControl.Service.Error

namespace FleetControl.Tool

structure Problem where
  kind : String
  message : String
deriving DecidableEq

structure Response where
  ok : Bool
  data : Option Json
  error : Option Problem

namespace Problem

def reader : Json.Reader Problem :=
  (Problem.mk <$> .required "kind" .text <*> .required "message" .text :
    Json.Record Problem).reader "struct ToolError"

def toJson (p : Problem) : Json :=
  .ofEntries [("kind", .text p.kind), ("message", .text p.message)]

end Problem

namespace Response

def success (data : Json) : Response := ⟨true, some data, none⟩

def failure (e : Service.Error) : Response := ⟨false, none, some ⟨e.kind, e.message⟩⟩

def ofResult : Except Service.Error Json → Response
  | .ok data => success data
  | .error e => failure e

def reader : Json.Reader Response :=
  (Response.mk <$> .required "ok" .bool <*> .perhaps "data" .any
    <*> .perhaps "error" Problem.reader : Json.Record Response).reader "struct ToolResponse"

def toJson (r : Response) : Json :=
  .ofEntries
    ([("ok", .bool r.ok)] ++ Json.entry? "data" id r.data
      ++ Json.entry? "error" Problem.toJson r.error)

end Response

end FleetControl.Tool
