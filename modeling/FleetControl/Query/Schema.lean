namespace FleetControl.Query

inductive ColumnKind where
  | integer
  | float
  | text
  | boolean
  | timestamp
  | json
  | point
  | polygon
deriving DecidableEq

def ColumnKind.name : ColumnKind → String
  | .integer => "integer"
  | .float => "float"
  | .text => "text"
  | .boolean => "boolean"
  | .timestamp => "timestamp"
  | .json => "json"
  | .point => "point"
  | .polygon => "polygon"

def ColumnKind.isGeometry : ColumnKind → Bool
  | .point | .polygon => true
  | _ => false

structure Column where
  name : String
  kind : ColumnKind
deriving DecidableEq

structure Table where
  name : String
  columns : List Column
  timestamp : String
  geometry : String
  /-- The column that tells which entity a row is about, if the table has one. -/
  entity : Option String
deriving DecidableEq

namespace Table

def column? (t : Table) (name : String) : Option Column :=
  t.columns.find? fun c => c.name == name

def geometryKind (t : Table) : ColumnKind :=
  ((t.column? t.geometry).map Column.kind).getD .point

def droneTrajectory : Table where
  name := "drone_trajectory"
  columns :=
    [⟨"id", .integer⟩, ⟨"drone_id", .text⟩, ⟨"location", .point⟩, ⟨"altitude", .float⟩,
      ⟨"speed", .float⟩, ⟨"heading", .float⟩, ⟨"timestamp", .timestamp⟩, ⟨"metadata", .json⟩]
  timestamp := "timestamp"
  geometry := "location"
  entity := some "drone_id"

def deviceStatus : Table where
  name := "device_status"
  columns :=
    [⟨"id", .integer⟩, ⟨"device_id", .text⟩, ⟨"device_type", .text⟩, ⟨"status", .text⟩,
      ⟨"location", .point⟩, ⟨"battery_level", .float⟩, ⟨"last_seen", .timestamp⟩,
      ⟨"properties", .json⟩]
  timestamp := "last_seen"
  geometry := "location"
  entity := some "device_id"

def missionLog : Table where
  name := "mission_log"
  columns :=
    [⟨"id", .integer⟩, ⟨"mission_id", .text⟩, ⟨"device_id", .text⟩, ⟨"action", .text⟩,
      ⟨"status", .text⟩, ⟨"start_location", .point⟩, ⟨"end_location", .point⟩,
      ⟨"started_at", .timestamp⟩, ⟨"completed_at", .timestamp⟩, ⟨"error_message", .text⟩,
      ⟨"metadata", .json⟩]
  timestamp := "started_at"
  geometry := "start_location"
  entity := some "device_id"

def geoFence : Table where
  name := "geo_fence"
  columns :=
    [⟨"id", .integer⟩, ⟨"name", .text⟩, ⟨"description", .text⟩, ⟨"boundary", .polygon⟩,
      ⟨"fence_type", .text⟩, ⟨"is_active", .boolean⟩, ⟨"created_at", .timestamp⟩,
      ⟨"updated_at", .timestamp⟩]
  timestamp := "created_at"
  geometry := "boundary"
  entity := none

def telemetryData : Table where
  name := "telemetry_data"
  columns :=
    [⟨"id", .integer⟩, ⟨"device_id", .text⟩, ⟨"location", .point⟩, ⟨"battery", .float⟩,
      ⟨"speed", .float⟩, ⟨"heading", .float⟩, ⟨"payload", .json⟩, ⟨"recorded_at", .timestamp⟩]
  timestamp := "recorded_at"
  geometry := "location"
  entity := some "device_id"

def spatialIndex : Table where
  name := "spatial_index"
  columns :=
    [⟨"id", .integer⟩, ⟨"entity_id", .text⟩, ⟨"entity_type", .text⟩, ⟨"bounds", .polygon⟩,
      ⟨"updated_at", .timestamp⟩]
  timestamp := "updated_at"
  geometry := "bounds"
  entity := some "entity_id"

def all : List Table :=
  [droneTrajectory, deviceStatus, missionLog, geoFence, telemetryData, spatialIndex]

def find? (name : String) : Option Table :=
  all.find? fun t => t.name == name

end Table

end FleetControl.Query
