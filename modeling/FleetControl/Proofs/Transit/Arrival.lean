import FleetControl.Device.Client
import FleetControl.Proofs.Tool.Answers
import FleetControl.Proofs.Transit.Stability

namespace FleetControl

open Transit (Shape Survive)

namespace Transit.Shape

variable {s : Shape} {a b : s.Carrier}

/-- What is written for `a` is read as `b`, in memory and as text. A text may be nested too deep, and
then it is not read as `a`. -/
structure Arrives (s : Shape) (a b : s.Carrier) : Prop where
  value : Json.readValue s.reader (s.toJson a) = .ok b
  text : (s.toJson a).within 127 = true → Json.readText s.reader (s.toJson a).render = .ok b
  shallow : Json.readText s.reader (s.toJson a).render = .ok a → (s.toJson a).within 127 = true

theorem arrives {k : ℕ} (h : Survive (s.leaves a)) (htakes : s.reader.Takes (s.toJson a) b)
    (hsendable : Json.Sendable k (s.toJson a)) : s.Arrives a b where
  value := htakes.readValue
  text hwithin := htakes.readText ⟨hsendable.ordered, hwithin, hsendable.survives⟩
  shallow hread := by
    have hroot := Json.root_of_readText hread
    exact (s.kept .text _ a 127 (Json.Draft.within_ofText _) hroot h).2.nested

end Transit.Shape

theorem exists_within_of_some (o : Option Json) : ∃ k, ∀ v, o = some v → v.within k = true := by
  cases o with
  | none => exact ⟨0, fun v hv ↦ nomatch hv⟩
  | some v =>
    obtain ⟨k, hk⟩ := v.exists_within
    exact ⟨k, fun w hw ↦ Option.some.inj hw ▸ hk⟩

theorem filter_isNull_eq_iff {o : Option Json} :
    (o.filter fun v ↦ !v.isNull) = o ↔ o ≠ some .null := by
  rcases o with - | v
  · simp
  · cases v <;> simp [Option.filter, Json.isNull]

namespace Command.Record

variable {r : Record}

theorem told_eq_iff : r.told = r ↔ r.result ≠ some .null := by
  rw [← filter_isNull_eq_iff]
  constructor
  · exact fun h ↦ congrArg Record.result h
  · intro h
    rw [told, h]

theorem isSome_result_told : r.told.result.isSome ↔ r.result.isSome ∧ r.result ≠ some .null := by
  change (r.result.filter fun v ↦ !v.isNull).isSome ↔ _
  rcases r.result with - | v
  · simp
  · cases v <;> simp [Option.filter, Json.isNull]

end Command.Record

theorem Tool.Response.told_eq_iff {r : Response} : r.told = r ↔ r.data ≠ some .null := by
  rw [← filter_isNull_eq_iff]
  constructor
  · exact fun h ↦ congrArg Response.data h
  · intro h
    rw [told, h]

namespace Dispatch

open Command (Failure Record)

variable {settings : Settings} {p : Retry.Policy} {labels : List Label} {messages : List Message}
  {s : System} {id : Identifier} {e : Entry}

theorem fits_of_atMost {failure : Failure} (hp : p.maxAttempts < UInt32.size)
    (h : failure.AtMost p.attempts) : failure.Fits := by
  have hsize : 1 < UInt32.size := by decide
  have hattempts : p.attempts < UInt32.size := Nat.max_lt.mpr ⟨hp, hsize⟩
  cases failure with
  | rejected message => trivial
  | _ => exact Nat.lt_of_le_of_lt h hattempts

theorem Run.sound (h : Run settings p .empty labels messages s) (hp : p.maxAttempts < UInt32.size)
    (hd : ∀ v ∈ documents labels, v.inOrder = true) (he : s.entryOf? id = some e) :
    ∃ k, Record.Sound k e.record := by
  obtain ⟨hpriority, hparameters⟩ := h.submitted he
  have hcounted := h.tallied.records he
  have hexplained := h.explained
  have hresult (v : Json) (hv : e.record.result = some v) : v.inOrder = true := by
    have hcomplete : Explains p labels (.complete v) := hexplained.records he hv
    exact hd v hcomplete
  obtain ⟨k, hk⟩ := exists_within_of_some e.record.result
  obtain ⟨m, hm⟩ := (Json.object e.record.parameters).exists_within
  refine ⟨max k m, ?_, ?_, ?_, ?_, ?_⟩
  · exact Nat.lt_of_le_of_lt hpriority (by decide)
  · rw [hcounted.attempts]
    exact Nat.lt_of_le_of_lt hcounted.bound (Nat.max_lt.mpr ⟨hp, by decide⟩)
  · exact ⟨hd _ hparameters, Json.within_mono (Nat.le_max_right k m) hm⟩
  · exact fun v hv ↦ ⟨hresult v hv, Json.within_mono (Nat.le_max_left k m) (hk v hv)⟩
  · intro failure hf
    have hfail : Explains p labels (.fail failure) := hexplained.records he hf
    exact fits_of_atMost hp hfail

theorem Run.arrives (h : Run settings p .empty labels messages s)
    (hp : p.maxAttempts < UInt32.size) (hd : ∀ v ∈ documents labels, v.inOrder = true)
    (he : s.entryOf? id = some e) (hleaves : Survive e.record.leaves) :
    Shape.command.Arrives e.record e.record.told := by
  obtain ⟨k, hsound⟩ := h.sound hp hd he
  exact Shape.arrives hleaves (Record.takes hsound hleaves) (Record.sendable hsound hleaves)

end Dispatch

theorem Device.HttpReply.ordered_of_value {reply : HttpReply} {v : Json} (h : reply.value = .ok v) :
    v.inOrder = true ∧ v.within 127 = true := by
  unfold value at h
  split at h
  · cases h
  · split at h
    · cases h
      exact ⟨rfl, rfl⟩
    · split at h
      next w hw =>
        cases h
        obtain ⟨text, -, hparse⟩ := Option.map_eq_some_iff.mp hw
        have hroot := Json.root_of_parse hparse
        exact ⟨Json.inOrder_of_value hroot,
          Json.within_of_value hroot (Json.Draft.within_ofText text)⟩
      · cases h
        exact ⟨rfl, rfl⟩

namespace Tool

open Dispatch (System Label documents)

theorem Response.arrives {r : Response} (hd : ∀ v, r.data = some v → v.inOrder = true)
    (hleaves : Survive r.leaves) : Shape.answer.Arrives r r.told := by
  obtain ⟨k, hk⟩ := exists_within_of_some r.data
  have hsound : r.Sound k := fun v hv ↦ ⟨hd v hv, hk v hv⟩
  exact Shape.arrives hleaves (takes hsound) (sendable hsound hleaves)

/-- The records of all commands arrive as they are, in whatever state the service is, unless a result is
null, and so does what is answered to any line, unless its data are null: null is found as none. So a
reader finds a result exactly with the completed commands whose result is not null. The bodies of
replies are values with their keys in order, as it is asked here of all that comes from outside. -/
theorem records_arrive {setup : Setup} {p : Retry.Policy} {labels : List Label}
    {messages : List Dispatch.Message} {s : System}
    (h : Dispatch.Run setup.dispatcher p .empty labels messages s)
    (hp : p.maxAttempts < UInt32.size) (hd : ∀ v ∈ documents labels, v.inOrder = true) :
    (∀ id e, s.entryOf? id = some e → (∀ l ∈ e.record.leaves, l.Survives) →
      Shape.command.Arrives e.record e.record.told ∧
      (e.record.told = e.record ↔ e.record.result ≠ some .null) ∧
      (e.record.told.result.isSome ↔
        e.record.status = .completed ∧ e.record.result ≠ some .null)) ∧
    (∀ fresh now line more sent u response,
      Handled setup p s fresh now line more sent u response →
      (∀ l ∈ response.leaves, l.Survives) →
      (∀ t e, startLine setup s fresh now line = (t, .errand e) → (∀ id, e ≠ .remoteCancel id) →
        ∀ v, response.data = some v → v.inOrder = true) →
      Shape.answer.Arrives response response.told ∧
      (response.told = response ↔ response.data ≠ some .null)) ∧
    ∀ (reply : Device.HttpReply) v, reply.value = .ok v → v.inOrder = true := by
  refine ⟨?_, ?_, fun reply v hv ↦ (Device.HttpReply.ordered_of_value hv).1⟩
  · intro id e he hleaves
    refine ⟨h.arrives hp hd he hleaves, Command.Record.told_eq_iff, ?_⟩
    rw [Command.Record.isSome_result_told, h.completed he]
  · intro fresh now line more sent u response hh hleaves hreply
    exact ⟨Response.arrives (Handled.ordered h hd hh hreply) hleaves, Response.told_eq_iff⟩

def answeredWith (body : Json) : List Label :=
  [.submit ⟨1⟩ (.ofMillis 0) ⟨"drone-7", "capture_photo", [], none, false⟩, .take "drone-7",
    .happen "drone-7" (.dispatch (.ofMillis 1)), .happen "drone-7" .begin,
    .happen "drone-7" (.answered (.value body)), .happen "drone-7" (.settle (.ofMillis 2))]

def photoTaken (body : Json) : Command.Record where
  id := ⟨1⟩
  device := "drone-7"
  action := .capturePhoto
  parameters := []
  priority := 5
  status := .completed
  created := .ofMillis 0
  started := some (.ofMillis 1)
  completed := some (.ofMillis 2)
  attempts := 1
  result := some body
  error := none

theorem run_answeredWith (body : Json) : ∃ messages s e,
    Dispatch.Run .standard .standard .empty (answeredWith body) messages s ∧
      s.entryOf? ⟨1⟩ = some e ∧ e.record = photoTaken body := by
  have hreplay : ∃ messages s, System.empty.replay .standard .standard (answeredWith body) =
      some (s, messages) ∧ (s.entryOf? ⟨1⟩).map Dispatch.Entry.record = some (photoTaken body) :=
    ⟨_, _, rfl, rfl⟩
  obtain ⟨messages, s, hs, hrecord⟩ := hreplay
  obtain ⟨e, he, hrecord⟩ := Option.map_eq_some_iff.mp hrecord
  exact ⟨messages, s, e, Dispatch.run_of_replay hs, he, hrecord⟩

theorem survive_counts : Survive [.nat 1, .nat 5] := by
  have hone : (Json.Number.int 1).survives = true := by decide +kernel
  have hfive : (Json.Number.int 5).survives = true := by decide +kernel
  simp only [Transit.survive_cons, Transit.survives_nat]
  exact ⟨hone, hfive, Transit.survive_nil⟩

theorem survive_photoTaken {body : Json} (h : body.numbers = []) :
    Survive (photoTaken body).leaves := by
  have hleaves : (photoTaken body).leaves = [.identifier ⟨1⟩, .nat 5, .instant (.ofMillis 0), .nat 1,
      .instant (.ofMillis 1), .instant (.ofMillis 2)] := by
    simp [photoTaken, Command.Record.leaves, Transit.leavesOf, h, Json.numbers, Json.fieldsNumbers]
  obtain ⟨hone, hfive, -⟩ := by simpa only [Transit.survive_cons] using survive_counts
  rw [hleaves]
  simp only [Transit.survive_cons]
  exact ⟨rfl, hfive, rfl, hone, rfl, rfl, Transit.survive_nil⟩

def statusLine : String :=
  "[\"command_status\",[\"00000000-0000-0000-0000-000000000001\",false]]"

def remoteStatusLine : String :=
  "[\"command_status\",[\"00000000-0000-0000-0000-000000000001\",true]]"

theorem records_arrive_photo : ∃ messages s e response,
    Dispatch.Run .standard .standard .empty
        (answeredWith (.object [("photo", .text "img-1.jpg")])) messages s ∧
      s.entryOf? ⟨1⟩ = some e ∧ e.record.status = .completed ∧
      Json.readText Command.Record.reader e.record.toJson.render = .ok e.record ∧
      Handled ⟨.standard, .standard⟩ .standard s ⟨2⟩ (.ofMillis 3) statusLine [] [] s response ∧
      response.data = some e.record.toJson ∧
      Json.readText Response.reader response.toJson.render = .ok response := by
  obtain ⟨messages, s, e, hrun, he, hrecord⟩ :=
    run_answeredWith (.object [("photo", .text "img-1.jpg")])
  have hline : Call.ofLine statusLine = .ok (.status ⟨⟨1⟩, false⟩) := rfl
  have hstart : startLine ⟨.standard, .standard⟩ s ⟨2⟩ (.ofMillis 3) statusLine =
      (s, .answered (.ok e.record.toJson)) := by
    simp [startLine, hline, Call.start, System.status, he, Except.map]
  have hordered : ∀ v ∈ documents (answeredWith (.object [("photo", .text "img-1.jpg")])),
      v.inOrder = true := by decide
  obtain ⟨hrecords, hanswers, -⟩ :=
    @records_arrive ⟨.standard, .standard⟩ _ _ _ _ hrun (by decide) hordered
  have hresult : e.record.result ≠ some .null := by
    rw [hrecord]
    exact fun h ↦ by cases h
  obtain ⟨harrives, htold, -⟩ := hrecords ⟨1⟩ e he (hrecord ▸ survive_photoTaken rfl)
  rw [htold.mpr hresult] at harrives
  have hnumbers : (Response.success e.record.toJson).leaves = [.nat 1, .nat 5] := by
    rw [hrecord]
    rfl
  have hdata : (Response.success e.record.toJson).data ≠ some .null := by
    rw [hrecord]
    exact fun h ↦ by cases h
  obtain ⟨hresponse, htold⟩ := hanswers _ _ _ _ _ _ _ (.atOnce hstart) (hnumbers ▸ survive_counts)
    fun t e' hother ↦ by cases hstart.symm.trans hother
  rw [htold.mpr hdata] at hresponse
  refine ⟨messages, s, e, _, hrun, he, hrecord ▸ rfl, harrives.text ?_, .atOnce hstart, rfl,
    hresponse.text ?_⟩
  · rw [hrecord]
    rfl
  · rw [hrecord]
    rfl

def nested : ℕ → Json
  | 0 => .list []
  | n + 1 => .list [nested n]

theorem numbers_nested (n : ℕ) : (nested n).numbers = [] := by
  induction n with
  | zero => rfl
  | succ n ih => simp [nested, Json.numbers, Json.itemsNumbers, ih]

theorem ordered_nested (n : ℕ) : (nested n).inOrder = true := by
  induction n with
  | zero => rfl
  | succ n ih => simp [nested, Json.inOrder, Json.itemsInOrder, ih]

theorem run_arrives_answeredWith {body : Json} (hordered : body.inOrder = true)
    (hnumbers : body.numbers = []) : ∃ messages s e,
      Dispatch.Run .standard .standard .empty (answeredWith body) messages s ∧
        s.entryOf? ⟨1⟩ = some e ∧ e.record = photoTaken body ∧
        Survive (photoTaken body).leaves ∧
        Shape.command.Arrives (photoTaken body) (photoTaken body).told := by
  obtain ⟨messages, s, e, hrun, he, hrecord⟩ := run_answeredWith body
  have hdocuments : documents (answeredWith body) = [.object [], body] := rfl
  have hleaves : Survive e.record.leaves := hrecord ▸ survive_photoTaken hnumbers
  have harrives := hrun.arrives (by decide) (by simpa [hdocuments] using ⟨rfl, hordered⟩) he hleaves
  rw [hrecord] at hleaves harrives
  exact ⟨messages, s, e, hrun, he, hrecord, hleaves, harrives⟩

/-- A null result and null data are not found again, and the text of a record whose result is nested as
deep as the body of a reply may be is not read. -/
theorem not_all_arrive :
    (∃ messages s e r, Dispatch.Run .standard .standard .empty (answeredWith .null) messages s ∧
      s.entryOf? ⟨1⟩ = some e ∧ (∀ l ∈ e.record.leaves, l.Survives) ∧
      e.record.status = .completed ∧
      Json.readValue Command.Record.reader e.record.toJson = .ok r ∧
      Json.readText Command.Record.reader e.record.toJson.render = .ok r ∧
      r.result = none ∧ r ≠ e.record) ∧
    (∃ response r, Handled ⟨.standard, .standard⟩ .standard .empty ⟨1⟩ (.ofMillis 0)
        remoteStatusLine [] [] .empty response ∧
      (∀ l ∈ response.leaves, l.Survives) ∧
      Json.readValue Response.reader response.toJson = .ok r ∧ r ≠ response) ∧
    ∃ messages s e, Dispatch.Run .standard .standard .empty (answeredWith (nested 126)) messages s ∧
      s.entryOf? ⟨1⟩ = some e ∧ (∀ l ∈ e.record.leaves, l.Survives) ∧
      (nested 126).within 127 = true ∧
      Json.readText Command.Record.reader e.record.toJson.render ≠ .ok e.record := by
  refine ⟨?_, ?_, ?_⟩
  · obtain ⟨messages, s, e, hrun, he, hrecord, hleaves, harrives⟩ :=
      @run_arrives_answeredWith .null rfl rfl
    rw [← hrecord] at hleaves harrives
    refine ⟨messages, s, e, _, hrun, he, hleaves, hrecord ▸ rfl, harrives.value, harrives.text ?_,
      ?_, ?_⟩
    · rw [hrecord]
      rfl
    · rw [hrecord]
      rfl
    · rw [hrecord]
      exact fun h ↦ by cases congrArg Command.Record.result h
  · have hstart : startLine ⟨.standard, .standard⟩ .empty ⟨1⟩ (.ofMillis 0) remoteStatusLine =
        (.empty, .errand (.remoteStatus ⟨1⟩)) := rfl
    have hleaves : Survive (Response.success .null).leaves := Transit.survive_nil
    have hdata : ∀ v, (Response.success .null).data = some v → v.inOrder = true :=
      fun v hv ↦ Option.some.inj hv ▸ rfl
    have harrives := Response.arrives hdata hleaves
    refine ⟨_, _, .errand (.ok .null) hstart .nil, hleaves, harrives.value, ?_⟩
    exact fun h ↦ by cases congrArg Response.data h
  · obtain ⟨messages, s, e, hrun, he, hrecord, hleaves, harrives⟩ :=
      run_arrives_answeredWith (ordered_nested 126) (numbers_nested 126)
    have hdeep : (photoTaken (nested 126)).toJson.within 127 = false := by decide +kernel
    refine ⟨messages, s, e, hrun, he, hrecord ▸ hleaves, by decide +kernel, fun hread ↦ ?_⟩
    rw [hrecord] at hread
    cases hdeep.symm.trans (harrives.shallow hread)

end Tool

end FleetControl
