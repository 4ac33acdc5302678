import FleetControl.Json.Tagged

namespace FleetControl.Geo

structure Point where
  longitude : Float
  latitude : Float
  altitude : Option Float
deriving DecidableEq

/-- Whether a number is finite and within bounds, both included. -/
def within (low high x : Float) : Bool :=
  x.isFinite && low ≤ x && x ≤ high

theorem within_iff {low high x : Float} :
    within low high x = true ↔ x.isFinite = true ∧ low ≤ x ∧ x ≤ high := by
  simp [within, and_assoc]

def isLongitude (x : Float) : Bool := within (-180.0) 180.0 x

def isLatitude (x : Float) : Bool := within (-90.0) 90.0 x

namespace Point

def isValid (p : Point) : Bool :=
  isLongitude p.longitude && isLatitude p.latitude

def of (longitude latitude : Float) : Point := ⟨longitude, latitude, none⟩

def withAltitude (p : Point) (altitude : Float) : Point := { p with altitude := some altitude }

def record : Json.Record Point :=
  Point.mk <$> .required "longitude" .double <*> .required "latitude" .double
    <*> .perhaps "altitude" .double

def reader : Json.Reader Point := record.reader "struct GeoPoint"

def entries (p : Point) : List (String × Json) :=
  [("longitude", .double p.longitude), ("latitude", .double p.latitude)]
    ++ Json.entry? "altitude" .double p.altitude

def toJson (p : Point) : Json := .ofEntries p.entries

end Point

def earthRadius : Float := 6371000.0

def radians (degrees : Float) : Float :=
  degrees * 0.017453292519943295

/-- The lesser of a number and one; one where the number is no number. -/
def atMostOne (x : Float) : Float :=
  if x < 1.0 then x else 1.0

/-- The great-circle distance between two positions in metres, by the haversine formula. Differences
are taken by size, so the distance is the same in both directions. -/
def distance (a b : Point) : Float :=
  let byLatitude := (radians (b.latitude - a.latitude).abs / 2.0).sin
  let byLongitude := (radians (b.longitude - a.longitude).abs / 2.0).sin
  let h := byLatitude * byLatitude
    + (radians a.latitude).cos * (radians b.latitude).cos * (byLongitude * byLongitude)
  earthRadius * (2.0 * (atMostOne h.sqrt).asin)

end FleetControl.Geo
