import FleetControl.Config.Load

namespace FleetControl.Config

/-- What a value tells, in either format. -/
inductive Told (V : Type) where
  | nothing
  | bool (b : Bool)
  | int (n : Int)
  | double (x : Float)
  | text (s : String)
  | list (items : List V)
  | table (entries : List (String × V))

def Tree.told : Tree → Told Tree
  | .nothing => .nothing
  | .leaf _ (.bool b) => .bool b
  | .leaf _ (.int n) => .int n
  | .leaf _ (.double x) => .double x
  | .leaf _ (.text s) => .text s
  | .list _ items => .list items
  | .table entries => .table entries

def Told.ofJson : Json → Told Json
  | .null => .nothing
  | .bool b => .bool b
  | .number (.int n) => .int n
  | .number (.double x) => .double x
  | .text s => .text s
  | .list items => .list items
  | .object fields => .table fields

namespace Told

def IsText {V : Type} (view : V → Told V) (s : String) (v : V) : Prop := view v = .text s

def IsNat {V : Type} (view : V → Told V) (n : Nat) (v : V) : Prop := view v = .int n

def IsDouble {V : Type} (view : V → Told V) (x : Float) (v : V) : Prop :=
  view v = .double x ∨ ∃ n, view v = .int n ∧ x = Float.ofInt n

def IsActions {V : Type} (view : V → Told V) (actions : List Command.Action) (v : V) : Prop :=
  ∃ items, view v = .list items ∧ items.map view = actions.map fun a => .text a.name

def IsOption {V α : Type} (view : V → Told V) (tells : α → V → Prop) : Option α → V → Prop
  | none, v => view v = .nothing
  | some a, v => view v ≠ .nothing ∧ tells a v

/-- Whether a key is left out, or its value is told. -/
def IsUnder {V α : Type} (tells : α → V → Prop) (entries : List (String × V)) (key : String) :
    Option α → Prop
  | none => entries.lookup key = none
  | some a => ∃ v, entries.lookup key = some v ∧ tells a v

def IsTable {V : Type} (view : V → Told V) (holds : List (String × V) → Prop) (v : V) : Prop :=
  ∃ entries, view v = .table entries ∧ (entries.map Prod.fst).Nodup ∧ holds entries

end Told

structure EndpointPart where
  url : Option String
  key : Option (Option String)
  connectTimeout : Option UInt64

structure RetryPart where
  maxAttempts : Option UInt32
  minWait : Option UInt64
  maxWait : Option UInt64
  attemptTimeout : Option UInt64
  overall : Option (Option UInt64)

structure DispatcherPart where
  confirmed : Option (List Command.Action)
  allowed : Option (Option (List Command.Action))
  historyLimit : Option UInt64

structure QueryPart where
  maxRows : Option UInt32
  pointRadius : Option Float

structure DatabasePart where
  url : Option String
  maxConnections : Option UInt32

structure Part where
  endpoint : Option EndpointPart
  retry : Option RetryPart
  dispatcher : Option DispatcherPart
  query : Option QueryPart
  database : Option DatabasePart

open Told

namespace EndpointPart

def ToldBy {V : Type} (view : V → Told V) (p : EndpointPart) : V → Prop :=
  IsTable view fun entries =>
    IsUnder (IsText view) entries "endpoint" p.url ∧
    IsUnder (IsOption view (IsText view)) entries "api_key" p.key ∧
    IsUnder (fun n : UInt64 => IsNat view n.toNat) entries "connect_timeout" p.connectTimeout

def fill (p : EndpointPart) : Endpoint where
  url := p.url.getD Endpoint.standard.url
  key := p.key.getD Endpoint.standard.key
  connectTimeout := (p.connectTimeout.map UInt64.toNat).getD Endpoint.standard.connectTimeout

end EndpointPart

namespace RetryPart

def ToldBy {V : Type} (view : V → Told V) (p : RetryPart) : V → Prop :=
  IsTable view fun entries =>
    IsUnder (fun n : UInt32 => IsNat view n.toNat) entries "max_attempts" p.maxAttempts ∧
    IsUnder (fun n : UInt64 => IsNat view n.toNat) entries "min_wait" p.minWait ∧
    IsUnder (fun n : UInt64 => IsNat view n.toNat) entries "max_wait" p.maxWait ∧
    IsUnder (fun n : UInt64 => IsNat view n.toNat) entries "attempt_timeout" p.attemptTimeout ∧
    IsUnder (IsOption view fun n : UInt64 => IsNat view n.toNat) entries "overall_timeout" p.overall

/-- A policy of which some keys are told; `limit` stands for the time limit of the whole request when
that is not told. -/
def fill (limit : Option Span) (p : RetryPart) : Retry.Policy where
  maxAttempts := (p.maxAttempts.map UInt32.toNat).getD Retry.Policy.standard.maxAttempts
  minWait := (p.minWait.map UInt64.toNat).getD Retry.Policy.standard.minWait
  maxWait := (p.maxWait.map UInt64.toNat).getD Retry.Policy.standard.maxWait
  attemptTimeout := (p.attemptTimeout.map UInt64.toNat).getD Retry.Policy.standard.attemptTimeout
  overall := (p.overall.map fun told => told.map UInt64.toNat).getD limit

end RetryPart

namespace DispatcherPart

def ToldBy {V : Type} (view : V → Told V) (p : DispatcherPart) : V → Prop :=
  IsTable view fun entries =>
    IsUnder (IsActions view) entries "confirmation_required" p.confirmed ∧
    IsUnder (IsOption view (IsActions view)) entries "allowed_actions" p.allowed ∧
    IsUnder (fun n : UInt64 => IsNat view n.toNat) entries "history_limit" p.historyLimit

def fill (p : DispatcherPart) : Dispatch.Settings where
  confirmed := p.confirmed.getD Dispatch.Settings.standard.confirmed
  allowed := p.allowed.getD Dispatch.Settings.standard.allowed
  historyLimit := (p.historyLimit.map UInt64.toNat).getD Dispatch.Settings.standard.historyLimit

end DispatcherPart

namespace QueryPart

def ToldBy {V : Type} (view : V → Told V) (p : QueryPart) : V → Prop :=
  IsTable view fun entries =>
    IsUnder (fun n : UInt32 => IsNat view n.toNat) entries "max_rows" p.maxRows ∧
    IsUnder (IsDouble view) entries "point_radius_m" p.pointRadius

def fill (p : QueryPart) : Query.Settings where
  maxRows := (p.maxRows.map UInt32.toNat).getD Query.Settings.standard.maxRows
  pointRadius := p.pointRadius.getD Query.Settings.standard.pointRadius

end QueryPart

namespace DatabasePart

def ToldBy {V : Type} (view : V → Told V) (p : DatabasePart) : V → Prop :=
  IsTable view fun entries =>
    IsUnder (IsText view) entries "url" p.url ∧
    IsUnder (fun n : UInt32 => IsNat view n.toNat) entries "max_connections" p.maxConnections

def fill (p : DatabasePart) : Database where
  url := p.url.getD Database.standard.url
  maxConnections := (p.maxConnections.map UInt32.toNat).getD Database.standard.maxConnections

end DatabasePart

namespace Part

def ToldBy {V : Type} (view : V → Told V) (p : Part) : V → Prop :=
  IsTable view fun entries =>
    IsUnder (EndpointPart.ToldBy view) entries "device_api" p.endpoint ∧
    IsUnder (RetryPart.ToldBy view) entries "retry" p.retry ∧
    IsUnder (DispatcherPart.ToldBy view) entries "dispatcher" p.dispatcher ∧
    IsUnder (QueryPart.ToldBy view) entries "query" p.query ∧
    IsUnder (DatabasePart.ToldBy view) entries "database" p.database

/-- The settings of which some keys are told: what is told, and what is built in for all else. In a
section of retries that is told without a time limit for the whole request, `limit` stands for it. -/
def fill (limit : Option Span) (p : Part) : Settings where
  endpoint := (p.endpoint.map EndpointPart.fill).getD .standard
  retry := (p.retry.map (RetryPart.fill limit)).getD .standard
  dispatcher := (p.dispatcher.map DispatcherPart.fill).getD .standard
  query := (p.query.map QueryPart.fill).getD .standard
  database := (p.database.map DatabasePart.fill).getD .standard

end Part

end FleetControl.Config
