import FleetControl.Proofs.Dispatch.Endings
import FleetControl.Proofs.Json.Given
import FleetControl.Proofs.Json.Parsing
import FleetControl.Proofs.Tool.Effects

namespace FleetControl

open Json (inOrder_ofEntries inOrder_option inOrder_entry inOrder_double inOrder_map)

namespace Geo

theorem Point.ordered (p : Point) : p.toJson.inOrder = true := by
  refine inOrder_ofEntries ?_
  simp only [Point.entries, List.forall_mem_append, List.forall_mem_cons]
  exact ⟨⟨inOrder_double _, inOrder_double _, List.forall_mem_nil _⟩,
    inOrder_entry fun x _ ↦ inOrder_double x⟩

theorem Stop.ordered (s : Stop) : s.toJson.inOrder = true := by
  refine inOrder_ofEntries ?_
  simp only [List.forall_mem_cons]
  exact ⟨rfl, rfl, rfl, rfl, inOrder_double _, s.location.ordered, List.forall_mem_nil _⟩

theorem Summary.ordered (s : Summary) : s.toJson.inOrder = true := by
  refine inOrder_ofEntries ?_
  simp only [List.forall_mem_cons]
  exact ⟨rfl, inOrder_double _, inOrder_double _, inOrder_double _,
    inOrder_option fun x _ ↦ inOrder_double x, inOrder_map Stop.ordered _, List.forall_mem_nil _⟩

theorem Fence.Event.ordered (e : Fence.Event) : e.toJson.inOrder = true := by
  refine inOrder_ofEntries ?_
  simp only [List.forall_mem_append, List.forall_mem_cons]
  exact ⟨⟨rfl, rfl, rfl, e.location.ordered, rfl, List.forall_mem_nil _⟩,
    inOrder_entry fun x _ ↦ inOrder_double x⟩

end Geo

namespace Query

theorem Bind.ordered (b : Bind) : b.toJson.inOrder = true := by
  cases b <;> refine inOrder_ofEntries ?_ <;> simp only [List.forall_mem_cons]
  case double x => exact ⟨rfl, inOrder_double x, List.forall_mem_nil _⟩
  all_goals exact ⟨rfl, rfl, List.forall_mem_nil _⟩

theorem Column.ordered (c : Column) : c.toJson.inOrder = true := by
  refine inOrder_ofEntries ?_
  simp only [List.forall_mem_cons]
  exact ⟨rfl, rfl, List.forall_mem_nil _⟩

theorem Compiled.ordered (q : Compiled) : q.toJson.inOrder = true := by
  refine inOrder_ofEntries ?_
  simp only [List.forall_mem_cons]
  exact ⟨rfl, rfl, inOrder_map Bind.ordered _, inOrder_map Column.ordered _, rfl,
    List.forall_mem_nil _⟩

end Query

namespace Command

theorem Failure.ordered (e : Failure) : e.toJson.inOrder = true := by
  cases e <;> refine inOrder_ofEntries ?_ <;> simp only [List.forall_mem_cons]
  case rejected => exact ⟨rfl, rfl, List.forall_mem_nil _⟩
  case deadline => exact ⟨rfl, rfl, List.forall_mem_nil _⟩
  case unreachable => exact ⟨rfl, rfl, rfl, List.forall_mem_nil _⟩

theorem Record.ordered {r : Record} (hparameters : (Json.object r.parameters).inOrder = true)
    (hresult : ∀ v, r.result = some v → v.inOrder = true) : r.toJson.inOrder = true := by
  have hvalue : (r.result.getD .null).inOrder = true := by
    cases h : r.result with
    | none => rfl
    | some v => exact hresult v h
  refine inOrder_ofEntries ?_
  simp only [List.forall_mem_cons]
  exact ⟨rfl, rfl, rfl, hparameters, rfl, rfl, rfl, inOrder_option fun _ _ ↦ rfl,
    inOrder_option fun _ _ ↦ rfl, rfl, hvalue, inOrder_option fun e _ ↦ e.ordered,
    List.forall_mem_nil _⟩

end Command

namespace Dispatch

theorem Submission.given : Submission.reader.Gives fun _ s ↦
    (Json.object s.parameters).inOrder = true := by
  have hparameters : Json.Reader.fields.Gives fun _ fields ↦ (Json.object fields).inOrder = true :=
    fun source d fields k hd h ↦ (Json.Reader.gives_fields source d fields k hd h).1
  refine Json.Record.Gives.reader ?_ _
  refine .seq (.seq (.seq (.seq (.map _ Json.Record.gives_some ?_) Json.Record.gives_some)
    (Json.Record.gives_defaulted hparameters fun _ ↦ rfl)) Json.Record.gives_some)
    Json.Record.gives_some
  exact fun k device _ action _ parameters hordered priority _ confirmed _ ↦ hordered

theorem Run.ordered {settings : Settings} {p : Retry.Policy} {labels : List Label}
    {messages : List Message} {s : System} (h : Run settings p .empty labels messages s)
    (hd : ∀ v ∈ documents labels, v.inOrder = true) {id : Identifier} {e : Entry}
    (he : s.entryOf? id = some e) : e.record.toJson.inOrder = true := by
  refine Command.Record.ordered (hd _ (h.submitted he).2) fun v hv ↦ ?_
  have hexplained : Explains p labels (.complete v) := h.explained.records he hv
  exact hd v hexplained

end Dispatch

namespace Tool

open Dispatch (System Label documents)

variable {setup : Setup} {p : Retry.Policy} {s t : System} {labels : List Label}
  {messages : List Dispatch.Message} {fresh : Identifier} {now : Instant} {line : String}
  {call : Call} {data : Json}

def Call.Ordered : Call → Prop
  | .submit submission => (Json.object submission.parameters).inOrder = true
  | _ => True

theorem Call.gives_holding {α : Type} {make : α → Call} {r : Json.Reader α}
    (h : r.Gives fun _ a ↦ (make a).Ordered) :
    (holding make r).Gives fun _ call ↦ call.Ordered := by
  intro source d call k hd hread
  cases ha : r source d with
  | error e => simp [ha, Except.map] at hread
  | ok a =>
    obtain rfl : make a = call := by simpa [ha, Except.map] using hread
    exact h source d a k hd ha

theorem Call.given : Call.reader.Gives fun _ call ↦ call.Ordered := by
  refine Json.Reader.gives_beside ?_
  have hnone {α : Type} {make : α → Call} {r : Json.Reader α} (h : ∀ a, (make a).Ordered) :
      (holding make r).Gives fun _ call ↦ call.Ordered :=
    gives_holding fun _ _ a _ _ _ ↦ h a
  simp only [names, List.forall_mem_cons]
  exact ⟨hnone fun _ ↦ trivial, fun _ ↦ trivial, hnone fun _ ↦ trivial, hnone fun _ ↦ trivial,
    gives_holding Dispatch.Submission.given, hnone fun _ ↦ trivial, hnone fun _ ↦ trivial,
    hnone fun _ ↦ trivial, fun _ ↦ trivial, hnone fun _ ↦ trivial, hnone fun _ ↦ trivial,
    List.forall_mem_nil _⟩

theorem Call.ordered_of_line (h : Call.ofLine line = .ok call) : call.Ordered := by
  unfold ofLine at h
  cases hread : Json.readText reader line with
  | error e => simp [hread, Except.mapError] at h
  | ok c =>
    obtain rfl : c = call := by simpa [hread, Except.mapError] using h
    exact given .text _ c 127 (Json.Draft.within_ofText line) (Json.root_of_readText hread)

theorem TrackSummary.ordered {summary : TrackSummary} (h : summary.answer = .ok data) :
    data.inOrder = true := by
  unfold answer at h
  cases ht : track summary.entity summary.samples with
  | error e => simp [ht, Except.map] at h
  | ok t =>
    rw [ht] at h
    obtain rfl := Except.ok.inj h
    refine inOrder_ofEntries ?_
    simp only [List.forall_mem_cons]
    exact ⟨rfl, rfl, rfl, Geo.Summary.ordered _, List.forall_mem_nil _⟩

theorem FenceVisits.ordered {visits : FenceVisits} (h : visits.answer = .ok data) :
    data.inOrder = true := by
  unfold answer at h
  cases ht : track visits.entity visits.samples with
  | error e => simp [ht, Except.map] at h
  | ok t =>
    rw [ht] at h
    obtain rfl := Except.ok.inj h
    exact inOrder_map Geo.Fence.Event.ordered _

theorem Call.ordered_of_start (hcall : call.Ordered)
    (hs : ∀ e ∈ s.entries, e.record.toJson.inOrder = true)
    (h : call.start setup s fresh now = (t, .answered (.ok data))) : data.inOrder = true := by
  cases call with
  | search asked =>
    cases hq : asked.query.prepare setup.query with
    | error e => simp [start, hq, Progress.failed] at h
    | ok q =>
      cases hdry : asked.dryRun with
      | true =>
        obtain rfl : q.toJson = data := by simpa [start, hq, hdry, Progress.done] using (Prod.mk.inj h).2
        exact q.ordered
      | false => simp [start, hq, hdry] at h
  | trackSummary summary =>
    exact TrackSummary.ordered (Progress.answered.inj (Prod.mk.inj h).2)
  | fenceVisits visits =>
    exact FenceVisits.ordered (Progress.answered.inj (Prod.mk.inj h).2)
  | submit submission =>
    cases hsubmit : s.submit setup.dispatcher fresh now submission with
    | error e => simp [start, hsubmit, Progress.failed] at h
    | ok result =>
      obtain ⟨u, record⟩ := result
      obtain ⟨order, ha, rfl, -⟩ := System.submit_eq_ok hsubmit
      simp only [start, hsubmit, Progress.done, Prod.mk.injEq, Progress.answered.injEq,
        Except.ok.injEq] at h
      obtain ⟨-, rfl⟩ := h
      have hparameters := (Dispatch.Submission.permits_of_accept ha).parameters
      refine Command.Record.ordered ?_ fun v hv ↦ by cases hv
      rw [Command.Record.new, hparameters]
      exact hcall
  | status ref =>
    cases hremote : ref.remote with
    | true => simp [start, hremote] at h
    | false =>
      cases he : s.entryOf? ref.id with
      | none => simp [start, hremote, System.status, he, Except.map] at h
      | some e =>
        obtain ⟨-, rfl⟩ : s = t ∧ e.record.toJson = data := by
          simpa [start, hremote, System.status, he, Except.map] using h
        exact hs e (System.mem_of_entryOf? he)
  | history ref =>
    obtain rfl := Except.ok.inj (Progress.answered.inj (Prod.mk.inj h).2)
    refine Json.inOrder_list.mpr fun v hv ↦ ?_
    obtain ⟨r, hr, rfl⟩ := List.mem_map.mp hv
    have hr := List.mem_of_mem_filter (List.mem_reverse.mp (List.mem_of_mem_take hr))
    obtain ⟨e, he, rfl⟩ := List.mem_map.mp hr
    exact hs e he
  | device ref => cases hc : Dispatch.checkDeviceName ref.device <;> simp [start, hc, Progress.failed] at h
  | sample sampling =>
    cases hc : Dispatch.checkDeviceName sampling.device <;> simp [start, hc, Progress.failed] at h
  | cancel ref => cases hc : s.cancel ref.id now <;> simp [start, hc, Progress.failed] at h
  | _ => simp [start] at h

/-- An answer has its keys in order if all that came from outside has, the reply it tells included. -/
theorem Handled.ordered {more : List Label} {sent : List Dispatch.Message} {u : System}
    {response : Response} (h : Dispatch.Run setup.dispatcher p .empty labels messages s)
    (hd : ∀ v ∈ documents labels, v.inOrder = true)
    (hh : Handled setup p s fresh now line more sent u response)
    (hreply : ∀ t e, startLine setup s fresh now line = (t, .errand e) →
      (∀ id, e ≠ .remoteCancel id) → ∀ v, response.data = some v → v.inOrder = true) :
    ∀ v, response.data = some v → v.inOrder = true := by
  intro v hv
  cases hh with
  | @atOnce u result hstart =>
    cases result with
    | error e => cases hv
    | ok data =>
      obtain rfl := Option.some.inj hv
      unfold startLine at hstart
      cases hcall : Call.ofLine line with
      | error e => simp [hcall, Progress.failed] at hstart
      | ok call =>
        simp only [hcall] at hstart
        refine Call.ordered_of_start (Call.ordered_of_line hcall) (fun e he ↦ ?_) hstart
        exact h.ordered hd (h.custody.entryOf?_of_mem he)
  | @errand more messages' t u e reply hstart hrun =>
    by_cases hcancel : ∃ id, e = .remoteCancel id
    · -- a cancellation is answered with the record, whatever the device says
      obtain ⟨id, rfl⟩ := hcancel
      cases starts_startLine hstart with
      | @cancelled ref e t hcall hc =>
        rw [Errand.finish_remoteCancel (settled_of_cancel h.custody hc hrun).1 reply] at hv
        obtain rfl := Option.some.inj hv
        have hadmits : s.admits (.cancel ref.id now) := trivial
        have hafter := h.snoc hadmits (System.step_cancel_ok hc)
        refine hafter.ordered (fun v hv ↦ hd v ?_) (System.cancel_ok hc).1
        simpa [documents, Label.document?] using hv
      | other _ _ _ hnone => cases hnone
    · exact hreply t e hstart (fun id hid ↦ hcancel ⟨id, hid⟩) v hv

end Tool

end FleetControl
