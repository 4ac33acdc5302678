import FleetControl.Proofs.Transit.Fleet
import FleetControl.Proofs.Transit.Queries
import FleetControl.Transit.Shape

namespace FleetControl.Transit

open Json (Sendable)

namespace Shape

variable {s : Shape} {a : s.Carrier}

theorem kept (s : Shape) : s.reader.Gives fun k a ↦ Survive (s.leaves a) →
    s.reader.Takes (s.toJson a) a ∧ Sendable (max k 5) (s.toJson a) := by
  intro source d a k hd hread h
  cases s with
  | point => exact ⟨Geo.Point.takes h, (Geo.Point.sendable h).mono (by omega)⟩
  | sample => exact ⟨Geo.Sample.takes h, (Geo.Sample.sendable h).mono (by omega)⟩
  | device =>
    have hsorted := Device.given source d a k hd hread
    exact ⟨Device.takes h hsorted, (Device.sendable h).mono (by omega)⟩
  | command =>
    obtain ⟨hsound, htold⟩ := Command.Record.given source d a k hd hread
    have htakes := Command.Record.takes hsound h
    rw [htold] at htakes
    exact ⟨htakes, (Command.Record.sendable hsound h).mono (by omega)⟩
  | failure =>
    have hfits := Command.Failure.given source d a k hd hread
    exact ⟨Command.Failure.takes h hfits, (Command.Failure.sendable h).mono (by omega)⟩
  | fence => exact ⟨Geo.Fence.takes h, (Geo.Fence.sendable h).mono (by omega)⟩
  | fenceEvent => exact ⟨Geo.Fence.Event.takes h, (Geo.Fence.Event.sendable h).mono (by omega)⟩
  | telemetry =>
    have hsound := Telemetry.Payload.given source d a k hd hread
    cases k with
    | zero => exact absurd hsound.nested Bool.false_ne_true
    | succ k =>
      exact ⟨Telemetry.Payload.takes hsound h,
        (Telemetry.Payload.sendable hsound h).mono (by omega)⟩
  | search =>
    have hlimit := Query.Description.given source d a k hd hread
    exact ⟨Query.Description.takes h hlimit, (Query.Description.sendable h).mono (by omega)⟩
  | answer =>
    obtain ⟨hsound, htold⟩ := Tool.Response.given source d a k hd hread
    have htakes := Tool.Response.takes hsound
    rw [htold] at htakes
    exact ⟨htakes, (Tool.Response.sendable hsound h).mono (by omega)⟩

theorem get?_of_keeps {source : Json.Source} {d : Json.Draft} {v : Json} {k : ℕ} {name : String}
    (hd : d.within k = true) (hv : d.value = .ok v) (h : s.reader source d = .ok a)
    (hname : s.keeps name = true) : (s.toJson a).get? name = v.get? name := by
  cases s with
  | telemetry =>
    have hother : name ∉ Telemetry.Payload.ownRecord.names := by simpa [keeps] using hname
    have hsound := Telemetry.Payload.given source d a k hd h
    exact (Telemetry.Payload.get?_toJson hsound hother).trans
      (Telemetry.Payload.lookup_extra hd hv h hother)
  | _ => cases hname

/-- The JSON form is stable. Where the numbers, moments and identifiers of a record survive being written
and read, the record that is read of any value, in memory or as text, is written in a form that is read
as the same record, in memory and as text; and a field that is kept without being known is written with
the value it was sent with. (A value in memory may be nested deeper than any text that is read.) -/
theorem stable (s : Shape) (a : s.Carrier) (h : ∀ l ∈ s.leaves a, l.Survives) :
    (∀ v, Json.readValue s.reader v = .ok a →
      Json.readValue s.reader (s.toJson a) = .ok a ∧
      (v.within 127 = true → Json.readText s.reader (s.toJson a).render = .ok a) ∧
      ∀ name, s.keeps name = true → v.inOrder = true →
        (s.toJson a).get? name = v.get? name) ∧
    ∀ text, Json.readText s.reader text = .ok a →
      Json.readValue s.reader (s.toJson a) = .ok a ∧
      Json.readText s.reader (s.toJson a).render = .ok a ∧
      ∀ name, s.keeps name = true → ∀ v, Json.parse text = .ok v →
        (s.toJson a).get? name = v.get? name := by
  constructor
  · intro v hread
    obtain ⟨k, hk⟩ := v.exists_within
    rw [← Json.within_draft] at hk
    obtain ⟨htakes, -⟩ := s.kept .value v.draft a k hk hread h
    refine ⟨htakes.readValue, fun hv ↦ ?_, fun name hname hordered ↦ ?_⟩
    · rw [← Json.within_draft] at hv
      obtain ⟨-, hsendable⟩ := s.kept .value v.draft a 127 hv hread h
      exact htakes.readText hsendable
    · exact get?_of_keeps hk (Json.value_draft hordered) hread hname
  · intro text hread
    have hwithin := Json.Draft.within_ofText text
    have hread := Json.root_of_readText hread
    obtain ⟨htakes, hsendable⟩ := s.kept .text _ a 127 hwithin hread h
    refine ⟨htakes.readValue, htakes.readText hsendable, fun name hname v hv ↦ ?_⟩
    exact get?_of_keeps hwithin (Json.root_of_parse hv) hread hname

def message : Json :=
  .object [("battery", .number (.double 87.5)), ("device_id", .text "drone-7"), ("heading", .null),
    ("note", .null), ("tags", .list [.number (.int 1), .text "camera"])]

theorem stable_message : ∃ payload : Telemetry.Payload,
    Json.readValue Telemetry.Payload.reader message = .ok payload ∧
      Json.readValue Telemetry.Payload.reader payload.toJson = .ok payload ∧
      Json.readText Telemetry.Payload.reader payload.toJson.render = .ok payload ∧
      payload.toJson.get? "note" = some .null ∧
      payload.toJson.get? "tags" = some (.list [.number (.int 1), .text "camera"]) := by
  let payload : Telemetry.Payload := ⟨"drone-7", none, none, some 87.5, none, none,
    [("note", .null), ("tags", .list [.number (.int 1), .text "camera"])]⟩
  have hread : Json.readValue Telemetry.Payload.reader message = .ok payload := rfl
  have hleaves : telemetry.leaves payload = [.number (.double 87.5), .number (.int 1)] := rfl
  have hsurvive : ∀ l ∈ telemetry.leaves payload, l.Survives := by
    rw [hleaves]
    simp only [List.forall_mem_cons]
    refine ⟨?_, ?_, List.forall_mem_nil _⟩
    · have h : (Json.Number.double 87.5).survives = true := by decide +kernel
      exact h
    · have h : (Json.Number.int 1).survives = true := by decide +kernel
      exact h
  obtain ⟨hvalue, -⟩ := stable telemetry payload hsurvive
  obtain ⟨hagain, htext, hkept⟩ := hvalue message hread
  exact ⟨payload, hread, hagain, htext rfl, hkept "note" rfl rfl, hkept "tags" rfl rfl⟩

end Shape

end FleetControl.Transit
