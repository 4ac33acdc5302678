import FleetControl.Proofs.Dispatch.Accounting

namespace FleetControl.Dispatch

variable {s : System} {sent : List Message} {id : Identifier} {device : String}

theorem requests_append (messages sent : List Message) :
    requests (messages ++ sent) = requests messages ++ requests sent :=
  List.filterMap_append

theorem attempts_append (id : Identifier) (messages sent : List Message) :
    attempts id (messages ++ sent) = attempts id messages + attempts id sent := by
  simp [attempts, requests_append]

theorem attempts_le_append (id : Identifier) (messages sent : List Message) :
    attempts id messages ≤ attempts id (messages ++ sent) := by
  rw [attempts_append]
  exact Nat.le_add_right _ _

theorem sentTo_append (device : String) (messages sent : List Message) :
    sentTo device (messages ++ sent) = sentTo device messages ++ sentTo device sent := by
  simp [sentTo, requests_append]

theorem attempts_of_no_requests (h : requests sent = []) : attempts id sent = 0 := by
  simp [attempts, h]

theorem sentTo_of_no_requests (h : requests sent = []) : sentTo device sent = [] := by
  simp [sentTo, h]

theorem attempts_submit (id : Identifier) (r : Command.Request) :
    attempts id [.submit r] = if id = r.command then 1 else 0 := by
  by_cases h : id = r.command
  · simp [attempts, requests, Message.request?, h]
  · simp [attempts, requests, Message.request?, h, Ne.symm h]

theorem sentTo_submit (device : String) (r : Command.Request) :
    sentTo device [.submit r] = if r.device = device then [r.command] else [] := by
  by_cases h : r.device = device <;> simp [sentTo, requests, Message.request?, h]

/-- Commands in some order, each as often as it was tried. -/
def blocks (tries : Identifier → ℕ) (ids : List Identifier) : List Identifier :=
  ids.flatMap fun id ↦ List.replicate (tries id) id

theorem blocks_append (tries : Identifier → ℕ) (ids ids' : List Identifier) :
    blocks tries (ids ++ ids') = blocks tries ids ++ blocks tries ids' :=
  List.flatMap_append

theorem mem_blocks {tries : Identifier → ℕ} {ids : List Identifier} :
    id ∈ blocks tries ids ↔ id ∈ ids ∧ 0 < tries id := by
  simp only [blocks, List.mem_flatMap, List.mem_replicate]
  constructor
  · rintro ⟨i, hi, hn, rfl⟩
    exact ⟨hi, Nat.pos_of_ne_zero hn⟩
  · rintro ⟨hi, hn⟩
    exact ⟨id, hi, Nat.ne_of_gt hn, rfl⟩

theorem blocks_congr {tries tries' : Identifier → ℕ} {ids : List Identifier}
    (h : ∀ id ∈ ids, tries id = tries' id) : blocks tries ids = blocks tries' ids := by
  unfold blocks
  rw [List.flatMap_def, List.flatMap_def]
  exact congrArg List.flatten (List.map_congr_left fun id hid ↦ by rw [h id hid])

theorem blocks_untried {tries : Identifier → ℕ} {ids : List Identifier}
    (h : ∀ id ∈ ids, tries id = 0) : blocks tries ids = [] := by
  rw [blocks, List.flatMap_eq_nil_iff]
  intro id hid
  rw [h id hid, List.replicate_zero]

theorem blocks_begun {tries tries' : Identifier → ℕ} {before after : List Identifier}
    (hd : (before ++ id :: after).Nodup) (ha : ∀ i ∈ after, tries i = 0)
    (hid : tries' id = tries id + 1) (hne : ∀ i, i ≠ id → tries' i = tries i) :
    blocks tries' (before ++ id :: after) = blocks tries (before ++ id :: after) ++ [id] := by
  have hbefore : id ∉ before := by
    intro hm
    exact (List.nodup_append.mp hd).2.2 id hm id List.mem_cons_self rfl
  have hafter : id ∉ after := (List.nodup_cons.mp (List.nodup_append.mp hd).2.1).1
  have hone (k : Identifier → ℕ) : blocks k [id] = List.replicate (k id) id := by simp [blocks]
  have hb : blocks tries' before = blocks tries before :=
    blocks_congr fun i hi ↦ hne i fun he ↦ hbefore (he ▸ hi)
  have ha' : blocks tries' after = [] := blocks_untried fun i hi ↦
    (hne i fun he ↦ hafter (he ▸ hi)).trans (ha i hi)
  rw [← List.singleton_append, ← List.append_assoc, blocks_append, blocks_append, blocks_append,
    blocks_append, hone, hone, hb, ha', blocks_untried ha, hid, List.replicate_succ']
  simp

namespace System

theorem accepted_accept (record : Command.Record) (device : String) :
    (s.accept record).accepted device =
      s.accepted device ++ if device = record.device then [record.id] else [] := by
  by_cases h : device = record.device
  · simp [accept, accepted, h, Entry.new]
  · simp [accept, accepted, h, Ne.symm h, Entry.new]

theorem accepted_eq (s : System) (device : String) : s.accepted device =
    ((s.entries.map fun e ↦ (e.record.id, e.record.device)).filter fun row ↦
      row.2 == device).map Prod.fst := by
  simp [accepted, List.filter_map, Function.comp_def]

end System

namespace Custody

theorem mem_accepted (h : Custody s) : id ∈ s.accepted device ↔
    ∃ e, s.entryOf? id = some e ∧ e.record.device = device := by
  simp only [System.accepted, List.mem_map, List.mem_filter, beq_iff_eq]
  constructor
  · rintro ⟨e, ⟨he, hd⟩, rfl⟩
    exact ⟨e, h.entryOf?_of_mem he, hd⟩
  · rintro ⟨e, he, hd⟩
    exact ⟨e, ⟨System.mem_of_entryOf? he, hd⟩, System.id_of_entryOf? he⟩

theorem nodup_accepted (h : Custody s) (device : String) : (s.accepted device).Nodup :=
  h.ids.sublist (List.Sublist.map _ List.filter_sublist)

theorem rows_setEntry (h : Custody s) {e e' : Entry} (he : s.entryOf? id = some e)
    (hid : e'.record.id = e.record.id) (hdev : e'.record.device = e.record.device) :
    (s.setEntry id e').entries.map (fun e ↦ (e.record.id, e.record.device)) =
      s.entries.map fun e ↦ (e.record.id, e.record.device) := by
  simp only [System.setEntry, List.map_map]
  refine List.map_congr_left fun b hb ↦ ?_
  by_cases hi : b.record.id = id
  · have hbe : b = e := Option.some.inj ((h.entryOf?_of_mem hb).symm.trans (hi ▸ he))
    simp [hi, hid, hdev, ← hbe]
  · simp [hi]

theorem accepted_setEntry (h : Custody s) {e e' : Entry} (he : s.entryOf? id = some e)
    (hid : e'.record.id = e.record.id) (hdev : e'.record.device = e.record.device)
    (device : String) : (s.setEntry id e').accepted device = s.accepted device := by
  rw [System.accepted_eq, System.accepted_eq, h.rows_setEntry he hid hdev]

theorem accepted_advance (h : Custody s) {p : Retry.Policy} {l : Lane} {e : Entry} {step : Step}
    (he : s.entryOf? id = some e) (hm : l.hand.Moves p e step) (device : String) :
    (s.advance l id step).accepted device = s.accepted device :=
  h.accepted_setEntry he hm.keeps_entry.1 hm.keeps_entry.2.1 device

end Custody

end FleetControl.Dispatch
