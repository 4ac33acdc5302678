import FleetControl.Json.Tagged

namespace FleetControl.Command

inductive Action where
  | takeoff
  | land
  | moveTo
  | returnHome
  | pause
  | resume
  | stop
  | capturePhoto
  | startVideo
  | stopVideo
  | setAltitude
  | setSpeed
  | custom
deriving DecidableEq, Inhabited

namespace Action

def all : List Action :=
  [.takeoff, .land, .moveTo, .returnHome, .pause, .resume, .stop, .capturePhoto, .startVideo,
    .stopVideo, .setAltitude, .setSpeed, .custom]

def name : Action → String
  | .takeoff => "takeoff"
  | .land => "land"
  | .moveTo => "move_to"
  | .returnHome => "return_home"
  | .pause => "pause"
  | .resume => "resume"
  | .stop => "stop"
  | .capturePhoto => "capture_photo"
  | .startVideo => "start_video"
  | .stopVideo => "stop_video"
  | .setAltitude => "set_altitude"
  | .setSpeed => "set_speed"
  | .custom => "custom"

def ofName? (name : String) : Option Action :=
  all.find? fun a => a.name == name

def confirmedByDefault : List Action := [.takeoff, .land, .returnHome, .stop]

def names : List (String × Action) :=
  all.map fun a => (a.name, a)

def reader : Json.Reader Action := .variant names

end Action

end FleetControl.Command
