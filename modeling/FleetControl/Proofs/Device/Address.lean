import FleetControl.Device.Client
import FleetControl.Proofs.Dispatch.Origin
import FleetControl.Proofs.Web.Segments

namespace FleetControl.Device

open Web (Closed)
open Web.Url (Plain encodeSegment isSpecial splitAt_pathText trunk)

variable {endpoint : String} {key : Option String} {c : Client} {parts : List String}

theorem Client.ofEndpoint_ok (h : Client.ofEndpoint endpoint key = .ok c) :
    Web.Url.parse (String.ofList (Text.trim endpoint.toList)) = .ok c.base ∧
      ∃ parts, c.base.path = .segments parts := by
  unfold ofEndpoint at h
  cases hp : Web.Url.parse (String.ofList (Text.trim endpoint.toList)) with
  | error e => simp [hp] at h
  | ok base =>
    simp only [hp] at h
    split at h
    · cases h
    · split at h
      · cases h
      · rename_i hpath _
        obtain rfl := Except.ok.inj h
        refine ⟨rfl, ?_⟩
        cases hb : base.path with
        | text s => simp [Web.Url.hasSegments, hb] at hpath
        | segments parts => exact ⟨parts, rfl⟩

theorem plain_of_check {id : String} (h : Dispatch.checkDeviceName id = .ok ()) : Plain id := by
  have hname := Dispatch.isDeviceName_of_check h
  simp only [Dispatch.isDeviceName, Bool.and_eq_true, Bool.not_eq_true', decide_eq_true_eq,
    List.all_eq_false, List.any_eq_false] at hname
  obtain ⟨⟨⟨⟨b, hb, -⟩, hdot⟩, hdots⟩, hcontrol⟩ := hname
  refine ⟨?_, hdot, hdots, List.any_eq_false.mpr fun ch hch hdropped ↦ hcontrol ch hch ?_⟩
  · rintro rfl
    cases hb
  · simp only [Web.Url.isDropped, Bool.or_eq_true, beq_iff_eq] at hdropped
    rcases hdropped with (rfl | rfl) | rfl <;> decide

theorem isDropped_of_mem_lastDigits {n value : ℕ} {ch : Char} (h : ch ∈ Identifier.lastDigits n value) :
    Web.Url.isDropped ch = false := by
  induction n generalizing value with
  | zero => cases h
  | succ n ih =>
    have hall : ∀ d < 16, Web.Url.isDropped (Nat.digitChar d) = false := by decide
    rw [Identifier.lastDigits, List.mem_append, List.mem_singleton] at h
    rcases h with h | rfl
    · exact ih h
    · exact hall _ (Nat.mod_lt _ (by decide))

theorem plain_render (id : Identifier) : Plain id.render := by
  have hhyphen : '-' ∈ id.render.toList := by simp [Identifier.render]
  have hdigits (n value : ℕ) : (Identifier.lastDigits n value).any Web.Url.isDropped = false :=
    List.any_eq_false.mpr fun ch hch ↦ by simp [isDropped_of_mem_lastDigits hch]
  have hseparator : Web.Url.isDropped '-' = false := by decide
  refine ⟨?_, ?_, ?_, by simp [Identifier.render, hdigits, hseparator]⟩
  all_goals
    intro he
    rw [he] at hhyphen
    revert hhyphen
    decide

namespace ServiceCall

def device? : ServiceCall → Option String
  | .device id => some id
  | .telemetry id => some id
  | _ => none

def IsAccepted (call : ServiceCall) : Prop :=
  ∀ id, call.device? = some id → Dispatch.checkDeviceName id = .ok ()

theorem plain_segments {call : ServiceCall} (h : call.IsAccepted) :
    ∀ name ∈ call.segments, Plain name := by
  have hfixed : ∀ name ∈ ["health", "devices", "commands", "cancel", "telemetry", "stream"],
      Plain name := by decide
  cases call with
  | device id =>
    have hid := plain_of_check (h id rfl)
    simp_all [segments]
  | telemetry id =>
    have hid := plain_of_check (h id rfl)
    simp_all [segments]
  | command id => simp_all [segments, plain_render]
  | cancel id => simp_all [segments, plain_render]
  | _ => simp_all [segments]

theorem eq_of_segments {a b : ServiceCall} (ha : a.device?.isSome = true)
    (h : a.segments = b.segments) : a = b := by
  cases a with
  | device id => cases b <;> simp_all [segments]
  | telemetry id => cases b <;> simp_all [segments]
  | _ => simp [device?] at ha

end ServiceCall

/-- The segments of a call stand, encoded, at the end of the path of the service. -/
theorem Client.url_eq (hbase : c.base.path = .segments parts) {call : ServiceCall}
    (h : call.IsAccepted) : c.url call = { c.base with
      path := .segments (trunk parts ++
        call.segments.map (encodeSegment (isSpecial c.base.scheme))) } := by
  have hne : call.segments ≠ [] := by cases call <;> simp [ServiceCall.segments]
  simp only [Client.url, Web.Url.extend, hbase,
    Web.Url.foldl_addSegment_trunk _ (ServiceCall.plain_segments h) hne]

namespace Client

variable {call a b : ServiceCall}

theorem path_url (hbase : c.base.path = .segments parts) (h : call.IsAccepted) :
    (c.url call).path = .segments (trunk parts ++
      call.segments.map (encodeSegment (isSpecial c.base.scheme))) := by
  rw [url_eq hbase h]

theorem closed_url (hclosed : c.base.Segmented) (hbase : c.base.path = .segments parts)
    (call : ServiceCall) : ∀ s ∈ trunk parts ++
      call.segments.map (encodeSegment (isSpecial c.base.scheme)),
        Closed (isSpecial c.base.scheme) s := by
  intro s hs
  rcases List.mem_append.mp hs with hs | hs
  · exact hclosed parts hbase s (Web.Url.mem_of_mem_trunk hs)
  · obtain ⟨name, -, rfl⟩ := List.mem_map.mp hs
    exact Web.Url.closed_encodeSegment _ name

theorem target_request (hbase : c.base.path = .segments parts) (h : call.IsAccepted) :
    (c.request call).url.target = (c.url call).pathText ++ c.base.queryText := by
  have hquery : (c.url call).queryText = c.base.queryText := by
    rw [url_eq hbase h]
    rfl
  have hne : (c.url call).pathText.isEmpty = false := by
    rw [← Bool.not_eq_true, String.isEmpty_iff]
    intro hempty
    have htext := Web.Url.toList_pathText (path_url hbase h)
    rw [hempty] at htext
    cases call <;> simp [ServiceCall.segments] at htext
  change (if (c.url call).pathText.isEmpty then "/" else (c.url call).pathText) ++
    (c.url call).queryText = _
  rw [hne, hquery]
  rfl

theorem eq_of_target (hclosed : c.base.Segmented) (hbase : c.base.path = .segments parts)
    (ha : a.IsAccepted) (hb : b.IsAccepted) (hdevice : a.device?.isSome = true)
    (h : (c.request a).url.target = (c.request b).url.target) : a = b := by
  rw [target_request hbase ha, target_request hbase hb] at h
  have htext : (c.url a).pathText = (c.url b).pathText := by
    rw [← String.toList_inj, String.toList_append, String.toList_append] at h
    exact String.toList_inj.mp (List.append_cancel_right h)
  have hparts := congrArg (fun text ↦ Web.splitAt '/' text.toList) htext
  rw [splitAt_pathText (path_url hbase ha) (closed_url hclosed hbase a),
    splitAt_pathText (path_url hbase hb) (closed_url hclosed hbase b), List.cons.injEq] at hparts
  have hsegments := List.map_injective_iff.mpr (fun _ _ ↦ String.toList_inj.mp) hparts.2
  exact ServiceCall.eq_of_segments hdevice
    (List.map_injective_iff.mpr (Web.Url.encodeSegment_injective _)
      (List.append_cancel_left hsegments))

end Client

/-- For every base that is accepted and every device name that is accepted, the calls about the device
go to the base, its path extended by one segment that holds the name. The text of the path has these
segments and no others, and no other call and no other name has the same target. -/
theorem names_keep_to_their_segment (h : Client.ofEndpoint endpoint key = .ok c) :
    Web.Url.parse (String.ofList (Text.trim endpoint.toList)) = .ok c.base ∧
    ∃ parts, c.base.path = .segments parts ∧
      (∀ id, Dispatch.checkDeviceName id = .ok () → ∃ segment,
        Web.Url.Holds (isSpecial c.base.scheme) segment id ∧
        c.url (.device id) =
          { c.base with path := .segments (trunk parts ++ ["devices", segment]) } ∧
        c.url (.telemetry id) = { c.base with
          path := .segments (trunk parts ++ ["devices", segment, "telemetry", "stream"]) }) ∧
      (∀ call : ServiceCall, call.IsAccepted → ∃ segments,
        (c.url call).path = .segments segments ∧
        Web.splitAt '/' (c.url call).pathText.toList = [] :: segments.map String.toList ∧
        ∀ ch ∈ (c.url call).pathText.toList,
          ch ≠ '?' ∧ ch ≠ '#' ∧ (isSpecial c.base.scheme = true → ch ≠ '\\')) ∧
      ∀ a b : ServiceCall, a.IsAccepted → b.IsAccepted → a.device?.isSome = true →
        (c.request a).url.target = (c.request b).url.target → a = b := by
  obtain ⟨hparsed, parts, hbase⟩ := Client.ofEndpoint_ok h
  have hclosed : c.base.Segmented := Web.Url.segmented_of_parse hparsed
  have hfixed (special : Bool) : encodeSegment special "devices" = "devices" ∧
      encodeSegment special "telemetry" = "telemetry" ∧
      encodeSegment special "stream" = "stream" := by
    cases special <;> decide
  obtain ⟨hdevices, htelemetry, hstream⟩ := hfixed (isSpecial c.base.scheme)
  refine ⟨hparsed, parts, hbase, ?_, ?_, fun a b ha hb ↦ Client.eq_of_target hclosed hbase ha hb⟩
  · intro id hid
    have haccepted : ∀ call : ServiceCall, call.device? = some id → call.IsAccepted := by
      rintro call hcall id' hid'
      rw [hcall, Option.some.injEq] at hid'
      exact hid' ▸ hid
    refine ⟨encodeSegment (isSpecial c.base.scheme) id,
      Web.Url.holds_encodeSegment _ (plain_of_check hid), ?_, ?_⟩
    · rw [Client.url_eq hbase (haccepted (.device id) rfl)]
      simp [ServiceCall.segments, hdevices]
    · rw [Client.url_eq hbase (haccepted (.telemetry id) rfl)]
      simp [ServiceCall.segments, hdevices, htelemetry, hstream]
  · intro call hcall
    have hpath := Client.path_url hbase hcall
    have hpieces := Client.closed_url hclosed hbase call
    exact ⟨_, hpath, splitAt_pathText hpath hpieces,
      fun ch hch ↦ Web.Url.isPath_of_mem_pathText hpath hpieces hch⟩

theorem names_keep_to_their_segment_climbing : ∃ c segment,
    Client.ofEndpoint "https://h/api/?v=2" none = .ok c ∧
      Dispatch.checkDeviceName "../commands/1234" = .ok () ∧
      Web.Url.Holds true segment "../commands/1234" ∧
      (c.url (.device "../commands/1234")).path = .segments ["api", "devices", segment] ∧
      (c.request (.device "../commands/1234")).url.target =
        "/api/devices/..%2Fcommands%2F1234?v=2" ∧
      ∀ b : ServiceCall, b.IsAccepted → (c.request b).url.target =
        "/api/devices/..%2Fcommands%2F1234?v=2" → .device "../commands/1234" = b := by
  have hid : Dispatch.checkDeviceName "../commands/1234" = .ok () := by decide
  have hseen : (Client.ofEndpoint "https://h/api/?v=2" none).toOption.map (fun c ↦
      (c.base.path, isSpecial c.base.scheme,
        (c.request (.device "../commands/1234")).url.target)) =
        some (.segments ["api", ""], true, "/api/devices/..%2Fcommands%2F1234?v=2") := by decide
  cases hc : Client.ofEndpoint "https://h/api/?v=2" none with
  | error e => simp [hc, Except.toOption] at hseen
  | ok c =>
    simp only [hc, Except.toOption, Option.map_some, Option.some.injEq, Prod.mk.injEq] at hseen
    obtain ⟨hpath, hspecial, htarget⟩ := hseen
    obtain ⟨-, parts, hparts, hurl, -, hunique⟩ := names_keep_to_their_segment hc
    obtain rfl := Web.Path.segments.inj (hpath.symm.trans hparts)
    obtain ⟨segment, hholds, hdevice, -⟩ := hurl _ hid
    refine ⟨c, segment, rfl, hid, hspecial ▸ hholds, congrArg Web.Url.path hdevice, htarget, ?_⟩
    intro b hb hsame
    refine hunique _ b (fun id hdev ↦ ?_) hb rfl (htarget.trans hsame.symm)
    exact Option.some.inj hdev ▸ hid

/-- A base whose path is two empty segments. The last one is left out, and the one before it gives its
place to the first segment that is added. -/
theorem empty_segment_replaced : ∃ c, Client.ofEndpoint "http://h//" none = .ok c ∧
    c.base.path = .segments ["", ""] ∧ Dispatch.checkDeviceName "drone-1" = .ok () ∧
    (c.url (.device "drone-1")).path = .segments ["devices", "drone-1"] ∧
    ∀ segment, (c.url (.device "drone-1")).path ≠
      .segments (["", ""].dropLast ++ ["devices", segment]) := by
  have hseen : (Client.ofEndpoint "http://h//" none).toOption.map (fun c ↦
      (c.base.path, (c.url (.device "drone-1")).path)) =
        some (.segments ["", ""], .segments ["devices", "drone-1"]) := by decide
  cases hc : Client.ofEndpoint "http://h//" none with
  | error e => simp [hc, Except.toOption] at hseen
  | ok c =>
    simp only [hc, Except.toOption, Option.map_some, Option.some.injEq, Prod.mk.injEq] at hseen
    obtain ⟨hpath, hurl⟩ := hseen
    refine ⟨c, rfl, hpath, by decide, hurl, fun segment hs ↦ ?_⟩
    rw [hurl, Web.Path.segments.injEq] at hs
    simp at hs

end FleetControl.Device
