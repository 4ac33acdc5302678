import FleetControl.Device.Basic
import FleetControl.Dispatch.System
import FleetControl.Query.Result
import FleetControl.Tool.Call
import FleetControl.Tool.Response

namespace FleetControl.Tool

structure Setup where
  dispatcher : Dispatch.Settings
  query : Query.Settings

/-- Something to be asked of the store or of the device service. -/
inductive Errand where
  | search (q : Query.Compiled)
  | tableCounts
  | devices
  | device (id : String)
  | remoteStatus (id : Identifier)
  /-- The withdrawal of a command that is already cancelled here; its answer does not matter. -/
  | remoteCancel (id : Identifier)
  | sample (s : Sampling)

inductive Progress where
  | answered (r : Except Service.Error Json)
  | errand (e : Errand)

def Progress.failed (e : Service.Error) : Progress := .answered (.error e)

def Progress.done (data : Json) : Progress := .answered (.ok data)

def track (entity : String) (samples : List Geo.Sample) : Except Service.Error Geo.Track :=
  (Geo.Track.ofSamples entity samples).mapError fun e => .parameter e.message

def TrackSummary.answer (s : TrackSummary) : Except Service.Error Json :=
  (track s.entity s.samples).map fun t =>
    .ofEntries
      [("entity_id", .text t.entity), ("start_time", .text t.start.render),
        ("end_time", .text t.finish.render),
        ("stats", (Geo.summarize s.stopSpeed s.stopDuration t.samples).toJson)]

def FenceVisits.answer (v : FenceVisits) : Except Service.Error Json :=
  (track v.entity v.samples).map fun t =>
    .list ((v.fence.events t.entity v.dwell t.samples).map Geo.Fence.Event.toJson)

namespace Call

/-- What a call does at once: the dispatcher after it, and what the call has come to. A submission
uses the identifier `fresh`. -/
def start (setup : Setup) (s : Dispatch.System) (fresh : Identifier) (now : Instant) :
    Call → Dispatch.System × Progress
  | .search asked =>
    match asked.query.prepare setup.query with
    | .error e => (s, .failed e)
    | .ok q => (s, if asked.dryRun then .done q.toJson else .errand (.search q))
  | .tableCounts => (s, .errand .tableCounts)
  | .trackSummary summary => (s, .answered summary.answer)
  | .fenceVisits visits => (s, .answered visits.answer)
  | .submit submission =>
    match s.submit setup.dispatcher fresh now submission with
    | .error e => (s, .failed e)
    | .ok (s, record) => (s, .done record.toJson)
  | .cancel ref =>
    match s.cancel ref.id now with
    | .error e => (s, .failed e)
    | .ok (s, _) => (s, .errand (.remoteCancel ref.id))
  | .status ref =>
    if ref.remote then (s, .errand (.remoteStatus ref.id))
    else (s, .answered ((s.status ref.id).map Command.Record.toJson))
  | .history ref =>
    (s, .done (.list ((s.history setup.dispatcher ref.device ref.limit).map Command.Record.toJson)))
  | .devices => (s, .errand .devices)
  | .device ref =>
    match Dispatch.checkDeviceName ref.device with
    | .error e => (s, .failed e)
    | .ok _ => (s, .errand (.device ref.device))
  | .sample sampling =>
    match Dispatch.checkDeviceName sampling.device with
    | .error e => (s, .failed e)
    | .ok _ => (s, .errand (.sample sampling))

end Call

/-- The answer to a call whose errand was run, from the dispatcher as it is then. -/
def Errand.finish (s : Dispatch.System) (reply : Except Service.Error Json) :
    Errand → Except Service.Error Json
  | .remoteCancel id => (s.status id).map Command.Record.toJson
  | _ => reply

def startLine (setup : Setup) (s : Dispatch.System) (fresh : Identifier) (now : Instant)
    (line : String) : Dispatch.System × Progress :=
  match Call.ofLine line with
  | .error e => (s, .failed e)
  | .ok call => call.start setup s fresh now

end FleetControl.Tool
