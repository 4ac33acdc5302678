import FleetControl.Dispatch.Submission
import FleetControl.Geo.Fence

namespace FleetControl.Tool

structure Search where
  query : Query.Description
  /-- Whether the query is only to be prepared. -/
  dryRun : Bool

def Search.reader : Json.Reader Search :=
  (Search.mk <$> .required "query" Query.Description.reader <*> .defaulted "dry_run" .bool false :
    Json.Record Search).reader "struct SpatialQueryArgs"

structure TrackSummary where
  entity : String
  samples : List Geo.Sample
  stopSpeed : Float
  stopDuration : Float

def TrackSummary.reader : Json.Reader TrackSummary :=
  (TrackSummary.mk <$> .required "entity_id" .text <*> .required "points" (.list Geo.Sample.reader)
    <*> .defaulted "speed_threshold" .double Geo.defaultStopSpeed
    <*> .defaulted "min_stop_duration_s" .double Geo.defaultStopDuration :
    Json.Record TrackSummary).reader "struct TrajectoryArgs"

structure FenceVisits where
  fence : Geo.Fence
  entity : String
  samples : List Geo.Sample
  dwell : Float

def FenceVisits.reader : Json.Reader FenceVisits :=
  (FenceVisits.mk <$> .required "fence" Geo.Fence.reader <*> .required "entity_id" .text
    <*> .required "points" (.list Geo.Sample.reader)
    <*> .defaulted "dwell_threshold_s" .double Geo.Fence.defaultDwell :
    Json.Record FenceVisits).reader "struct GeofenceArgs"

structure CommandRef where
  id : Identifier
  remote : Bool

def CommandRef.reader : Json.Reader CommandRef :=
  (CommandRef.mk <$> .required "command_id" .identifier <*> .defaulted "remote" .bool false :
    Json.Record CommandRef).reader "struct CommandRef"

structure DeviceRef where
  device : String
  limit : Option Nat

def DeviceRef.reader : Json.Reader DeviceRef :=
  (DeviceRef.mk <$> .required "device_id" .text <*> .perhaps "limit" .count :
    Json.Record DeviceRef).reader "struct DeviceRef"

structure Sampling where
  device : String
  maxEvents : Nat
  timeout : Span

def Sampling.reader : Json.Reader Sampling :=
  (Sampling.mk <$> .required "device_id" .text <*> .defaulted "max_events" .count 10
    <*> .defaulted "timeout_ms" .long 5000 : Json.Record Sampling).reader
    "struct TelemetrySampleArgs"

inductive Call where
  | search (s : Search)
  | tableCounts
  | trackSummary (s : TrackSummary)
  | fenceVisits (v : FenceVisits)
  | submit (s : Dispatch.Submission)
  | cancel (c : CommandRef)
  | status (c : CommandRef)
  | history (d : DeviceRef)
  | devices
  | device (d : DeviceRef)
  | sample (s : Sampling)

namespace Call

def holding {α : Type} (make : α → Call) (r : Json.Reader α) : Json.Content Call :=
  .holding fun source d => (r source d).map make

def names : List (String × Json.Content Call) :=
  [("spatial_query", holding .search Search.reader),
    ("table_counts", .alone .tableCounts "ToolCall::TableCounts"),
    ("trajectory_stats", holding .trackSummary TrackSummary.reader),
    ("geofence_events", holding .fenceVisits FenceVisits.reader),
    ("submit_command", holding .submit Dispatch.Submission.reader),
    ("cancel_command", holding .cancel CommandRef.reader),
    ("command_status", holding .status CommandRef.reader),
    ("device_commands", holding .history DeviceRef.reader),
    ("list_devices", .alone .devices "ToolCall::ListDevices"),
    ("get_device", holding .device DeviceRef.reader),
    ("telemetry_sample", holding .sample Sampling.reader)]

def reader : Json.Reader Call := .beside "tool" "args" "ToolCall" names

def ofLine (line : String) : Except Service.Error Call :=
  (Json.readText reader line).mapError .malformed

end Call

end FleetControl.Tool
