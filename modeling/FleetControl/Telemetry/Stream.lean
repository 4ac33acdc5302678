import FleetControl.Telemetry.Decoder

namespace FleetControl.Telemetry.Stream

def trimmed (raw : List UInt8) : List UInt8 :=
  if raw.getLast? = some carriageReturn then raw.dropLast else raw

def dataValue? (line : List Char) : Option String :=
  match line.span (· != ':') with
  | (['d', 'a', 't', 'a'], []) => some ""
  | (['d', 'a', 't', 'a'], ':' :: ' ' :: value) => some (String.ofList value)
  | (['d', 'a', 't', 'a'], ':' :: value) => some (String.ofList value)
  | _ => none

/-- The results of lines that are complete, after the values of `data` that the event has so far. -/
def read (data : List String) : List (List UInt8) → List (Except EventError String)
  | [] => []
  | raw :: rest =>
    if trimmed raw = [] then
      if data = [] then read [] rest
      else .ok ("\n".intercalate data) :: read [] rest
    else
      match Text.decode? (trimmed raw) with
      | none => .error .notText :: read data rest
      | some line =>
        if line.toList.head? = some ':' then read data rest
        else
          match dataValue? line.toList with
          | some value => read (data ++ [value]) rest
          | none => read data rest

def lines (stream : List UInt8) : List (List UInt8) :=
  (stream.splitOn lineFeed).dropLast

/-- The results of a stream; what comes after the last line end yields nothing. -/
def events (stream : List UInt8) : List (Except EventError String) :=
  read [] (lines stream)

/-- The lines between blank lines, with the one that is not ended in the last block. -/
def blocks (stream : List UInt8) : List (List (List UInt8)) :=
  (stream.splitOn lineFeed).splitOnP (fun raw => (trimmed raw).isEmpty)

def blockSize : List (List UInt8) → Nat
  | [] => 0
  | raw :: rest => raw.length + blockSize rest

def readPayload : Except EventError String → Except EventError Payload
  | .ok data => (Json.readText Payload.reader data).mapError .notPayload
  | .error e => .error e

end FleetControl.Telemetry.Stream
