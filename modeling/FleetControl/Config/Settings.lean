import FleetControl.Dispatch.Settings
import FleetControl.Query.Compile
import FleetControl.Retry.Policy

namespace FleetControl.Config

structure Endpoint where
  url : String
  key : Option String
  connectTimeout : Span
deriving DecidableEq

def Endpoint.standard : Endpoint := ⟨"http://localhost:8080", none, 5000⟩

def Endpoint.reader : Json.Reader Endpoint :=
  (Endpoint.mk <$> .defaulted "endpoint" .text standard.url <*> .perhaps "api_key" .text
    <*> .defaulted "connect_timeout" .long standard.connectTimeout :
    Json.Record Endpoint).reader "struct DeviceApiConfig"

structure Database where
  url : String
  maxConnections : Nat
deriving DecidableEq

def Database.standard : Database := ⟨"postgres://localhost/spatial", 10⟩

def Database.reader : Json.Reader Database :=
  (Database.mk <$> .defaulted "url" .text standard.url
    <*> .defaulted "max_connections" .word standard.maxConnections :
    Json.Record Database).reader "struct DatabaseConfig"

structure Settings where
  endpoint : Endpoint
  retry : Retry.Policy
  dispatcher : Dispatch.Settings
  query : Query.Settings
  database : Database

namespace Settings

def standard : Settings where
  endpoint := .standard
  retry := .standard
  dispatcher := .standard
  query := .standard
  database := .standard

def reader : Json.Reader Settings :=
  (Settings.mk <$> .defaulted "device_api" Endpoint.reader .standard
    <*> .defaulted "retry" Retry.Policy.reader .standard
    <*> .defaulted "dispatcher" Dispatch.Settings.reader .standard
    <*> .defaulted "query" Query.Settings.reader .standard
    <*> .defaulted "database" Database.reader .standard :
    Json.Record Settings).reader "struct AppConfig"

inductive Problem where
  | noEndpoint
  | retry (problem : Retry.Policy.Problem)
  | noRows
  | noRadius
  | noConnections
deriving DecidableEq

def Problem.message : Problem → String
  | .noEndpoint => "Device API endpoint cannot be empty"
  | .retry problem => problem.message
  | .noRows => "Maximum row count must be greater than zero"
  | .noRadius => "Point search radius must be a positive distance"
  | .noConnections => "Database pool needs at least one connection"

def check (s : Settings) : Except Problem Unit :=
  if s.endpoint.url.toList.all Text.isBlank then .error .noEndpoint
  else
    match s.retry.check with
    | .error problem => .error (.retry problem)
    | .ok _ =>
      if s.query.maxRows = 0 then .error .noRows
      else if !(s.query.pointRadius.isFinite && 0.0 < s.query.pointRadius) then .error .noRadius
      else if s.database.maxConnections = 0 then .error .noConnections
      else .ok ()

end Settings

end FleetControl.Config
