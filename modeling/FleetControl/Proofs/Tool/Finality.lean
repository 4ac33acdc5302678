import FleetControl.Proofs.Dispatch.Finality
import FleetControl.Proofs.Tool.Gating

namespace FleetControl.Tool

open Command (Record)
open Dispatch (System Label Entry Shared Awaited)
open Relation (ReflTransGen)

variable {setup : Setup} {p : Retry.Policy} {s t u : System} {turns : List Turn}
  {messages : List Dispatch.Message} {id : Identifier} {e : Entry}

theorem Call.start_status (he : s.entryOf? id = some e) (fresh : Identifier) (now : Instant) :
    (Call.status ⟨id, false⟩).start setup s fresh now = (s, .done e.record.toJson) := by
  simp [Call.start, System.status_of_entryOf? he, Except.map, Progress.done]

/-- However the writes to an entry interleave, the status told is that of the record, the signal is
raised only for a cancelled command, and a record that is over takes no event and stays as it is. The
entries of the service are such entries, whatever calls are made. So a caller who waits is answered with
a record that is over, and whoever asks for the status from then on is answered with that record. -/
theorem records_final (h : Run setup p .empty turns messages s) :
    (∀ r a, ReflTransGen Shared.Writes (.new r) a →
      a.entry.published = a.entry.record.status ∧
      (a.entry.interrupted = true → a.entry.record.status = .cancelled) ∧
      (a.entry.record.status.isTerminal = true →
        (∀ now event, a.entry.apply now event = .error ⟨a.entry.record.status, event.name⟩) ∧
        ∀ b, ReflTransGen Shared.Writes a b →
          b.entry.record = a.entry.record ∧ b.entry.published = a.entry.published)) ∧
    (∀ id e, s.entryOf? id = some e →
      (∃ r : Record, r.status = .pending ∧ ReflTransGen Shared.Writes (.new r) ⟨e, 0⟩) ∧
      e.published = e.record.status ∧
      (e.interrupted = true → e.record.status = .cancelled) ∧
      (e.record.status.isTerminal = true → ∀ turns' messages' t,
        Run setup p s turns' messages' t → t.entryOf? id = some e)) ∧
    ∀ id u r, Awaited setup.dispatcher p s id u (.ok r) → r.status.isTerminal = true ∧
      ∀ turns' messages' t fresh now, Run setup p u turns' messages' t →
        (Call.status ⟨id, false⟩).start setup t fresh now = (t, .done r.toJson) := by
  refine ⟨?_, ?_, ?_⟩
  · intro r a ha
    have hc := (Shared.coherent_new r).reaches ha
    refine ⟨hc.told, hc.signalled, fun ht ↦ ⟨?_, fun b hb ↦ Shared.keeps_of_isTerminal hb ht⟩⟩
    exact fun now event ↦ Entry.apply_of_not_next? (Dispatch.next?_of_isTerminal ht event)
  · intro id e he
    have hc := h.dispatch.coherent he
    exact ⟨h.dispatch.writes he, hc.told, hc.signalled,
      fun ht _ _ t hrun ↦ hrun.dispatch.entryOf?_of_isTerminal he ht⟩
  · intro id u r hw
    obtain ⟨e, he, rfl, ht⟩ := hw.final h.dispatch
    exact ⟨ht, fun _ _ t fresh now hrun ↦
      Call.start_status (hrun.dispatch.entryOf?_of_isTerminal he ht) fresh now⟩

/-- A command whose attempt is answered, and which is cancelled before the answer is noted. -/
def lateAnswer : List Label :=
  [.submit ⟨1⟩ (.ofMillis 0) ⟨"drone-7", "capture_photo", [], none, false⟩,
    .take "drone-7", .happen "drone-7" (.dispatch (.ofMillis 1)), .happen "drone-7" .begin,
    .happen "drone-7" (.answered (.value (.bool true))), .cancel ⟨1⟩ (.ofMillis 2),
    .happen "drone-7" (.settle (.ofMillis 3))]

theorem records_final_lateAnswer : ∃ messages s r,
    Run ⟨.standard, .standard⟩ .standard .empty (lateAnswer.map turnOf) messages s ∧
      Awaited .standard .standard s ⟨1⟩ s (.ok r) ∧ r.status = .cancelled ∧ r.attempts = 1 ∧
      r.result = none ∧
      ∀ turns' messages' t fresh now, Run ⟨.standard, .standard⟩ .standard s turns' messages' t →
        (Call.status ⟨⟨1⟩, false⟩).start ⟨.standard, .standard⟩ t fresh now =
          (t, .done r.toJson) := by
  obtain ⟨⟨s, messages⟩, hs⟩ : ∃ result,
      System.empty.replay .standard .standard lateAnswer = some result :=
    Option.isSome_iff_exists.mp (by decide)
  have hseen : (System.empty.replay .standard .standard lateAnswer).map (fun result ↦
      (result.1.entryOf? ⟨1⟩).map fun e ↦
        (e.record.status, e.record.attempts, e.record.result.isNone)) =
          some (some (.cancelled, 1, true)) := by decide
  rw [hs, Option.map_some, Option.some.injEq] at hseen
  obtain ⟨e, he, hx⟩ := Option.map_eq_some_iff.mp hseen
  simp only [Prod.mk.injEq, Option.isNone_iff_eq_none] at hx
  obtain ⟨hc, hn, hnone⟩ := hx
  have hrun : Run ⟨.standard, .standard⟩ .standard .empty (lateAnswer.map turnOf) messages s :=
    Run.of_dispatch (Dispatch.run_of_replay hs)
  obtain ⟨-, hentries, hwaits⟩ := records_final hrun
  have hover : e.published.isTerminal = true := by
    rw [(hentries ⟨1⟩ e he).2.1, hc]
    rfl
  have hawaited : Awaited .standard .standard s ⟨1⟩ s (.ok e.record) :=
    System.status_of_entryOf? he ▸ .told (by simp [he]) .nil he hover .nil
  exact ⟨messages, s, e.record, hrun, hawaited, hc, hn, hnone, (hwaits ⟨1⟩ s e.record hawaited).2⟩

end FleetControl.Tool
