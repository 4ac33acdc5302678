import FleetControl.Proofs.Dispatch.Table
import FleetControl.Proofs.Tool.Finality

namespace FleetControl.Tool

open Command (Record)
open Dispatch (System Label Register Custody)

variable {setup : Setup} {p : Retry.Policy} {s : System} {turns : List Turn}
  {messages : List Dispatch.Message}

def Turn.accepts? (setup : Setup) : Turn → Option (Identifier × String)
  | .call (.submit submission) fresh _ =>
    if (submission.accept setup.dispatcher).isOk then some (fresh, submission.device) else none
  | _ => none

def submittedTo (setup : Setup) (device : String) (turns : List Turn) : List Identifier :=
  ((turns.filterMap (Turn.accepts? setup)).filter fun row ↦ row.2 == device).map Prod.fst

theorem Turn.accepts?_eq (turn : Turn) :
    turn.accepts? setup = turn.label?.bind (Label.accepts? setup.dispatcher) := by
  cases turn with
  | call c fresh now => cases c <;> rfl
  | _ => rfl

theorem Run.rows (h : Run setup p .empty turns messages s) :
    s.entries.map (fun e ↦ (e.record.id, e.record.device)) =
      turns.filterMap (Turn.accepts? setup) := by
  rw [h.dispatch.rows, List.filterMap_filterMap]
  exact List.filterMap_congr fun turn _ ↦ turn.accepts?_eq.symm

theorem Run.accepted (h : Run setup p .empty turns messages s) (device : String) :
    s.accepted device = submittedTo setup device turns := by
  rw [System.accepted_eq, h.rows]
  rfl

def lastOf (setup : Setup) (limit : Option ℕ) (ids : List Identifier) : List Identifier :=
  ids.reverse.take (limit.elim setup.dispatcher.historyLimit (min · setup.dispatcher.historyLimit))

theorem forall₂_history (hc : Custody s) (device : String) (limit : Option ℕ) (fresh : Identifier)
    (now : Instant) :
    List.Forall₂
      (fun id record ↦ s.status id = .ok record ∧
        (Call.status ⟨id, false⟩).start setup s fresh now = (s, .done record.toJson))
      (lastOf setup limit (s.accepted device)) (s.history setup.dispatcher device limit) := by
  have hn : limit.elim setup.dispatcher.historyLimit (min · setup.dispatcher.historyLimit) =
      min (limit.getD setup.dispatcher.historyLimit) setup.dispatcher.historyLimit := by
    cases limit <;> simp
  rw [lastOf, hn, System.history, System.accepted, ← List.map_reverse, ← List.map_take,
    List.filter_map, ← List.map_reverse, ← List.map_take, List.forall₂_map_left_iff,
    List.forall₂_map_right_iff]
  refine List.forall₂_same.mpr fun e he ↦ ?_
  have hm : s.entryOf? e.record.id = some e := hc.entryOf?_of_mem
    (List.mem_of_mem_filter (List.mem_reverse.mp (List.mem_of_mem_take he)))
  exact ⟨System.status_of_entryOf? hm, Call.start_status hm fresh now⟩

/-- In every state that the service comes to, the history of a device tells its last accepted
submissions, the last one first, each as its status is told; there are as many as were asked for and
the setup allows, or all. The two indexes that it is drawn from agree: what the second has for a device
are the accepted submissions for it, each command of the first is there once, with its own device only,
and there are as many commands as accepted submissions. -/
theorem history_of_submissions (h : Run setup p .empty turns messages s) :
    ∃ r, Register.Run setup.dispatcher p .empty (turns.filterMap Turn.label?) messages r ∧
      (∀ id, r.status id = s.status id) ∧
      (∀ device limit fresh now, ∃ records : List Record,
        r.history setup.dispatcher device limit = records ∧
        (Call.history ⟨device, limit⟩).start setup s fresh now =
          (s, .done (.list (records.map Record.toJson))) ∧
        List.Forall₂
          (fun id record ↦ r.status id = .ok record ∧
            (Call.status ⟨id, false⟩).start setup s fresh now = (s, .done record.toJson))
          (lastOf setup limit (submittedTo setup device turns)) records) ∧
      (∀ device, r.table.idsOf device = submittedTo setup device turns) ∧
      (∀ id e, r.table.get? id = some e → ∀ device,
        (r.table.idsOf device).count id = if device = e.record.device then 1 else 0) ∧
      (∀ device, ∀ id ∈ r.table.idsOf device,
        ∃ e, r.table.get? id = some e ∧ e.record.device = device) ∧
      r.table.size = s.entries.length ∧
      r.table.size = turns.countP fun turn ↦ (turn.accepts? setup).isSome := by
  have hc := h.dispatch.custody
  obtain ⟨r, hr, hm⟩ := Register.mirrors_of_run h.dispatch
  have hsize : s.entries.length = turns.countP fun turn ↦ (turn.accepts? setup).isSome := by
    rw [← List.length_filterMap_eq_countP, ← h.rows, List.length_map]
  refine ⟨r, hr, hm.status, ?_, ?_, ?_, ?_, hm.size, hm.size.trans hsize⟩
  · intro device limit fresh now
    refine ⟨_, hm.history hc device limit, rfl, ?_⟩
    simp only [hm.status, ← h.accepted]
    exact forall₂_history hc device limit fresh now
  · exact fun device ↦ (hm.ids device).trans (h.accepted device)
  · intro id e he device
    rw [hm.get?] at he
    rw [hm.ids]
    split
    · rename_i hd
      exact List.count_eq_one_of_mem (hc.nodup_accepted device)
        (hc.mem_accepted.mpr ⟨e, he, hd.symm⟩)
    · rename_i hd
      refine List.count_eq_zero.mpr fun hid ↦ ?_
      obtain ⟨e', he', hd'⟩ := hc.mem_accepted.mp hid
      obtain rfl : e = e' := Option.some.inj (he.symm.trans he')
      exact hd hd'.symm
  · intro device id hid
    rw [hm.ids] at hid
    simpa only [hm.get?] using hc.mem_accepted.mp hid

theorem history_of_submissions_three : ∃ messages s records,
    Run ⟨.standard, .standard⟩ .standard .empty (Dispatch.threeCommands.map turnOf) messages s ∧
      submittedTo ⟨.standard, .standard⟩ "drone-7" (Dispatch.threeCommands.map turnOf) =
        [⟨1⟩, ⟨2⟩, ⟨3⟩] ∧
      (Call.history ⟨"drone-7", some 2⟩).start ⟨.standard, .standard⟩ s .nil (.ofMillis 9) =
        (s, .done (.list (records.map Record.toJson))) ∧
      List.Forall₂ (fun id record ↦ (Call.status ⟨id, false⟩).start ⟨.standard, .standard⟩ s .nil
        (.ofMillis 9) = (s, .done record.toJson)) [⟨3⟩, ⟨2⟩] records := by
  obtain ⟨⟨s, messages⟩, hs⟩ : ∃ result,
      System.empty.replay .standard .standard Dispatch.threeCommands = some result :=
    Option.isSome_iff_exists.mp (by decide)
  have hrun : Run ⟨.standard, .standard⟩ .standard .empty (Dispatch.threeCommands.map turnOf)
      messages s := Run.of_dispatch (Dispatch.run_of_replay hs)
  have hthree : submittedTo ⟨.standard, .standard⟩ "drone-7"
      (Dispatch.threeCommands.map turnOf) = [⟨1⟩, ⟨2⟩, ⟨3⟩] := by decide
  obtain ⟨r, -, -, hhistory, -⟩ := history_of_submissions hrun
  obtain ⟨records, -, hstart, htold⟩ := hhistory "drone-7" (some 2) .nil (.ofMillis 9)
  rw [hthree] at htold
  exact ⟨messages, s, records, hrun, hthree, hstart, htold.imp fun _ _ hr ↦ hr.2⟩

end FleetControl.Tool
