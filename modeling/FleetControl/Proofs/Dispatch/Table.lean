import FleetControl.Dispatch.Table
import FleetControl.Proofs.Dispatch.Origin

namespace FleetControl.Dispatch

variable {settings : Settings} {p : Retry.Policy} {t : Table} {id : Identifier} {device : String}

namespace Table

@[simp] theorem get?_empty (id : Identifier) : empty.get? id = none := Std.HashMap.getElem?_empty

@[simp] theorem idsOf_empty (device : String) : empty.idsOf device = [] := by
  simp [idsOf, empty]

@[simp] theorem size_empty : empty.size = 0 := Std.HashMap.size_empty

theorem get?_insert (record : Command.Record) (id : Identifier) :
    (t.insert record).get? id = if id = record.id then some (.new record) else t.get? id := by
  by_cases hi : id = record.id
  · simp [get?, insert, hi]
  · simp [get?, insert, Std.HashMap.getElem?_insert, hi, Ne.symm hi]

theorem idsOf_insert (record : Command.Record) (device : String) :
    (t.insert record).idsOf device =
      t.idsOf device ++ if device = record.device then [record.id] else [] := by
  by_cases hd : device = record.device
  · simp [idsOf, insert, hd]
  · simp [idsOf, insert, Std.HashMap.getElem?_alter, hd, Ne.symm hd]

theorem size_insert {record : Command.Record} (hn : t.get? record.id = none) :
    (t.insert record).size = t.size + 1 := by
  have hm : record.id ∉ t.commands := by simpa [get?] using hn
  simp [size, insert, Std.HashMap.size_insert, hm]

theorem get?_write (e : Entry) (id' : Identifier) :
    (t.write id e).get? id' = if id' = id then (t.get? id).map fun _ ↦ e else t.get? id' := by
  by_cases hi : id' = id
  · simp [get?, write, hi]
  · simp [get?, write, Std.HashMap.getElem?_modify, hi, Ne.symm hi]

@[simp] theorem idsOf_write (e : Entry) (device : String) :
    (t.write id e).idsOf device = t.idsOf device := rfl

@[simp] theorem size_write (e : Entry) : (t.write id e).size = t.size :=
  Std.HashMap.size_modify

theorem forDevice_eq (t : Table) (device : String) (limit : ℕ) :
    t.forDevice device limit = ((t.idsOf device).reverse.take limit).filterMap t.get? := by
  unfold forDevice idsOf
  cases t.byDevice[device]? <;> simp

end Table

namespace System

variable {s s' : System}

theorem lane?_of_lanes (h : s.lanes = s'.lanes) (device : String) :
    s.lane? device = s'.lane? device := by
  rw [lane?, lane?, h]

theorem lanes_setLane_of_lanes (h : s.lanes = s'.lanes) (l : Lane) :
    (s.setLane l).lanes = (s'.setLane l).lanes := by
  rw [setLane, setLane, h]

theorem lanes_enqueue_of_lanes (h : s.lanes = s'.lanes) (device : String) (id : Identifier) :
    (s.enqueue device id).lanes = (s'.enqueue device id).lanes := by
  unfold enqueue
  rw [lane?_of_lanes h]
  cases s'.lane? device with
  | some l => exact lanes_setLane_of_lanes h (l.push id)
  | none => exact congrArg (· ++ _) h

end System

theorem Custody.filterMap_entryOf? {s : System} (h : Custody s) {entries : List Entry}
    (he : ∀ e ∈ entries, e ∈ s.entries) :
    (entries.map fun e ↦ e.record.id).filterMap s.entryOf? = entries := by
  induction entries with
  | nil => rfl
  | cons e entries ih =>
    rw [List.forall_mem_cons] at he
    rw [List.map_cons, List.filterMap_cons_some (h.entryOf?_of_mem he.1), ih he.2]

namespace Register

variable {r r' : Register} {s s' : System} {sent : List Message}

/-- The register has the commands and the lanes of a dispatcher, each index as it should be. -/
structure Mirrors (r : Register) (s : System) : Prop where
  get? (id : Identifier) : r.table.get? id = s.entryOf? id
  ids (device : String) : r.table.idsOf device = s.accepted device
  size : r.table.size = s.entries.length
  lanes : r.lanes = s.lanes

theorem mirrors_empty : empty.Mirrors .empty where
  get? _ := Table.get?_empty _
  ids _ := Table.idsOf_empty _
  size := Table.size_empty
  lanes := rfl

namespace Mirrors

theorem onLanes (h : r.Mirrors s) : r.onLanes.lanes = s.lanes := h.lanes

theorem accept (h : r.Mirrors s) {record : Command.Record} (hn : s.entryOf? record.id = none) :
    Mirrors ⟨r.table.insert record, (r.onLanes.enqueue record.device record.id).lanes⟩
      (s.accept record) where
  get? id := by rw [Table.get?_insert, System.entryOf?_accept hn, h.get?]
  ids device := by rw [Table.idsOf_insert, System.accepted_accept, h.ids]
  size := by
    rw [Table.size_insert ((h.get? _).trans hn), h.size]
    simp [System.accept]
  lanes := System.lanes_enqueue_of_lanes h.lanes _ _

theorem write (h : r.Mirrors s) (hs : Custody s) {e e' : Entry} (he : s.entryOf? id = some e)
    (hid : e'.record.id = e.record.id) (hdev : e'.record.device = e.record.device) :
    Mirrors { r with table := r.table.write id e' } (s.setEntry id e') where
  get? id' := by
    rw [Table.get?_write, System.entryOf?_setEntry (hid.trans (System.id_of_entryOf? he)), h.get?,
      h.get?]
  ids device := by rw [Table.idsOf_write, hs.accepted_setEntry he hid hdev, h.ids]
  size := by simp [System.setEntry, h.size]
  lanes := h.lanes

theorem setLane (h : r.Mirrors s) (l : Lane) :
    Mirrors { r with lanes := (r.onLanes.setLane l).lanes } (s.setLane l) where
  get? := h.get?
  ids := h.ids
  size := h.size
  lanes := System.lanes_setLane_of_lanes h.lanes l

theorem submit (h : r.Mirrors s) {now : Instant} {submission : Submission}
    {record : Command.Record} (hn : s.entryOf? id = none)
    (hs : s.submit settings id now submission = .ok (s', record)) :
    ∃ r', r.submit settings id now submission = .ok (r', record) ∧ r'.Mirrors s' := by
  obtain ⟨order, ha, rfl, rfl⟩ := System.submit_eq_ok hs
  refine ⟨_, ?_, h.accept hn⟩
  simp only [Register.submit, ha]
  rfl

theorem submit_error {now : Instant} {submission : Submission} {error : Service.Error}
    (hs : s.submit settings id now submission = .error error) :
    r.submit settings id now submission = .error error := by
  unfold System.submit at hs
  unfold Register.submit
  cases ha : submission.accept settings with
  | error bad => simpa [ha] using hs
  | ok order => simp [ha] at hs

theorem cancel (h : r.Mirrors s) (hc : Custody s) {now : Instant} {e : Entry}
    (hs : s.cancel id now = .ok (s', e)) :
    ∃ r', r.cancel id now = .ok (r', e) ∧ r'.Mirrors s' := by
  obtain ⟨e₀, e', he, ha, rfl, rfl⟩ := System.cancel_eq_ok hs
  obtain ⟨-, hid, hdev, -⟩ := Entry.apply_ok ha
  refine ⟨_, ?_, h.write hc he hid hdev⟩
  simp only [Register.cancel, h.get?, he, ha]

theorem cancel_error (h : r.Mirrors s) {now : Instant} {error : Service.Error}
    (hs : s.cancel id now = .error error) : r.cancel id now = .error error := by
  unfold System.cancel at hs
  unfold Register.cancel
  rw [h.get?]
  cases he : s.entryOf? id with
  | none => simpa [he] using hs
  | some e =>
    cases ha : e.apply now .cancel with
    | error bad => simpa [he, ha] using hs
    | ok e' => simp [he, ha] at hs

theorem take? (h : r.Mirrors s) (hs : s.take? device = some s') :
    ∃ r', r.take? device = some r' ∧ r'.Mirrors s' := by
  simp only [System.take?, Option.bind_eq_some_iff, Option.map_eq_some_iff] at hs
  obtain ⟨l, hl, l', hl', rfl⟩ := hs
  refine ⟨_, ?_, h.setLane l'⟩
  simp [Register.take?, System.take?, System.lane?_of_lanes h.onLanes, hl, hl']

theorem happen? (h : r.Mirrors s) (hc : Custody s) {happening : Happening}
    {request : Option Command.Request} (hs : s.happen? p device happening = some (s', request)) :
    ∃ r', r.happen? p device happening = some (r', request) ∧ r'.Mirrors s' := by
  simp only [System.happen?, Option.bind_eq_some_iff, Option.map_eq_some_iff, Prod.mk.injEq] at hs
  obtain ⟨l, hl, id, hcmd, e, he, step, hstep, rfl, rfl⟩ := hs
  obtain ⟨hid, hdev, -⟩ := (Hand.moves_of_step hstep).keeps_entry
  have hlane : r.onLanes.lane? device = some l := (System.lane?_of_lanes h.onLanes device).trans hl
  refine ⟨_, ?_, (h.write hc he hid hdev).setLane { l with hand := step.hand }⟩
  simp only [Register.happen?, hlane, hcmd, h.get?, he, hstep, Option.bind_some, Option.map_some]
  rfl

/-- A register that mirrors a dispatcher takes the same step. -/
theorem step (h : r.Mirrors s) (hc : Custody s) {label : Label} (ha : s.admits label)
    (hs : s.step settings p label = some (s', sent)) :
    ∃ r', r.step settings p label = some (r', sent) ∧ r'.Mirrors s' := by
  cases label with
  | submit id now submission =>
    cases hsub : s.submit settings id now submission with
    | error error =>
      simp only [System.step, hsub, Option.some.injEq, Prod.mk.injEq] at hs
      obtain ⟨rfl, rfl⟩ := hs
      exact ⟨r, by simp [Register.step, submit_error hsub], h⟩
    | ok result =>
      simp only [System.step, hsub, Option.some.injEq, Prod.mk.injEq] at hs
      obtain ⟨rfl, rfl⟩ := hs
      obtain ⟨r', hr, hm⟩ := h.submit (Option.isNone_iff_eq_none.mp ha) hsub
      exact ⟨r', by simp [Register.step, hr], hm⟩
  | cancel id now =>
    cases hcan : s.cancel id now with
    | error error =>
      simp only [System.step, hcan, Option.some.injEq, Prod.mk.injEq] at hs
      obtain ⟨rfl, rfl⟩ := hs
      exact ⟨r, by simp [Register.step, h.cancel_error hcan], h⟩
    | ok result =>
      simp only [System.step, hcan, Option.some.injEq, Prod.mk.injEq] at hs
      obtain ⟨rfl, rfl⟩ := hs
      obtain ⟨r', hr, hm⟩ := h.cancel hc hcan
      exact ⟨r', by simp [Register.step, hr], hm⟩
  | take device =>
    simp only [System.step, Option.map_eq_some_iff, Prod.mk.injEq] at hs
    obtain ⟨u, hu, rfl, rfl⟩ := hs
    obtain ⟨r', hr, hm⟩ := h.take? hu
    exact ⟨r', by simp [Register.step, hr], hm⟩
  | happen device happening =>
    simp only [System.step, Option.map_eq_some_iff, Prod.mk.injEq] at hs
    obtain ⟨⟨u, request⟩, hu, rfl, rfl⟩ := hs
    obtain ⟨r', hr, hm⟩ := h.happen? hc hu
    exact ⟨r', by simp [Register.step, hr], hm⟩

theorem status (h : r.Mirrors s) (id : Identifier) : r.status id = s.status id := by
  cases he : s.entryOf? id <;> simp [Register.status, System.status, h.get?, he]

theorem forDevice (h : r.Mirrors s) (hc : Custody s) (device : String) (n : ℕ) :
    r.table.forDevice device n =
      ((s.entries.filter fun e ↦ e.record.device == device).reverse.take n) := by
  rw [Table.forDevice_eq, funext h.get?, h.ids, System.accepted, ← List.map_reverse, ← List.map_take]
  refine hc.filterMap_entryOf? fun e he ↦ ?_
  exact List.mem_of_mem_filter (List.mem_reverse.mp (List.mem_of_mem_take he))

theorem history (h : r.Mirrors s) (hc : Custody s) (device : String) (limit : Option ℕ) :
    r.history settings device limit = s.history settings device limit := by
  simp only [Register.history, System.history, h.forDevice hc, List.filter_map, List.map_take,
    List.map_reverse]
  rfl

end Mirrors

theorem mirrors_of_run {labels : List Label} {messages : List Message}
    (h : Dispatch.Run settings p .empty labels messages s) :
    ∃ r, Run settings p .empty labels messages r ∧ r.Mirrors s := by
  induction h with
  | nil => exact ⟨.empty, .nil, mirrors_empty⟩
  | snoc hrun ha hs ih =>
    obtain ⟨r, hr, hm⟩ := ih
    obtain ⟨r', hstep, hm'⟩ := hm.step hrun.custody ha hs
    exact ⟨r', hr.snoc hstep, hm'⟩

end Register

def Label.accepts? (settings : Settings) : Label → Option (Identifier × String)
  | .submit id _ submission =>
    if (submission.accept settings).isOk then some (id, submission.device) else none
  | _ => none

theorem System.rows_step {s t : System} {label : Label} {sent : List Message} (hc : Custody s)
    (hs : s.step settings p label = some (t, sent)) :
    t.entries.map (fun e ↦ (e.record.id, e.record.device)) =
      s.entries.map (fun e ↦ (e.record.id, e.record.device)) ++
        (label.accepts? settings).toList := by
  cases System.does_of_step hs with
  | rejected ha => simp [Label.accepts?, ha, Except.isOk, Except.toBool]
  | submitted ha =>
    have hd := (Submission.permits_of_accept ha).device
    simp [Label.accepts?, ha, Except.isOk, Except.toBool, System.accept, Entry.new,
      Command.Record.new, hd]
  | refused => simp [Label.accepts?]
  | @cancelled id e e' now he ha =>
    obtain ⟨-, hid, hdev, -⟩ := Entry.apply_ok ha
    have hid' : e'.interrupt.record.id = e.record.id := hid
    rw [hc.rows_setEntry he hid' hdev]
    simp [Label.accepts?]
  | taken => simp [Label.accepts?, System.start, System.setLane]
  | happened _ _ he hstep =>
    obtain ⟨hid, hdev, -⟩ := (Hand.moves_of_step hstep).keeps_entry
    refine (hc.rows_setEntry he hid hdev).trans ?_
    simp [Label.accepts?]

theorem Run.rows {s : System} {labels : List Label} {messages : List Message}
    (h : Run settings p .empty labels messages s) :
    s.entries.map (fun e ↦ (e.record.id, e.record.device)) =
      labels.filterMap (Label.accepts? settings) := by
  induction h with
  | nil => rfl
  | snoc hrun ha hs ih =>
    rw [System.rows_step hrun.custody hs, ih, List.filterMap_append]
    rfl

end FleetControl.Dispatch
