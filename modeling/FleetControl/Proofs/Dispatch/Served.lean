import FleetControl.Proofs.Dispatch.Requests

namespace FleetControl.Dispatch

open Command (Status)

variable {settings : Settings} {p : Retry.Policy} {s t : System} {labels : List Label}
  {messages sent : List Message} {id : Identifier} {device : String}

/-- Whether the command in hand was tried, in a delivery that is given some time. -/
def Hand.Tried (p : Retry.Policy) : Hand → Prop
  | .delivering _ stage => stage ≠ .ready 1
  | .settled _ _ => p.overall ≠ some 0
  | _ => False

theorem Stage.Ends.not_first {stage : Stage} {r : Retry.Result Json} (h : stage.Ends p r)
    (hp : p.overall ≠ some 0) : stage ≠ .ready 1 := by
  rintro rfl
  cases h with
  | expired hx => simp [Stage.mayExpire, hp] at hx

namespace Hand.Moves

variable {e : Entry} {hand : Hand} {step : Step}

/-- Only the beginning of an attempt sends something, and what it sends is the command in hand. -/
theorem sent_cases (h : hand.Moves p e step) (hc : hand.command? = some id) :
    step.sent = none ∨ (e.interrupted = false ∧ step.hand.command? = some id ∧
      step.sent = some (.ofRecord e.record)) := by
  cases h with
  | begun hi => exact Or.inr ⟨hi, hc, rfl⟩
  | _ => exact Or.inl rfl

theorem tried (h : hand.Moves p e step) (ht : step.hand.Tried p) :
    hand.Tried p ∨ step.sent ≠ none := by
  cases h with
  | dispatched => exact absurd rfl ht
  | begun => exact Or.inr (by simp)
  | failed => exact Or.inl (by simp [Hand.Tried])
  | waited => exact Or.inl (by simp [Hand.Tried])
  | ended _ he => exact Or.inl (he.not_first ht)
  | _ => cases ht

theorem tried_or_cancelled (h : hand.Moves p e step) (hp : p.overall ≠ some 0)
    (hs : hand.Suits e) (hc : e.Signalled) (hi : step.hand = .idle) :
    hand.Tried p ∨ step.entry.record.status = .cancelled := by
  cases h with
  | skipped ha =>
    rcases hs with hs | hs
    · have hn := Entry.apply_error ha
      simp [hs, Status.next?] at hn
    · exact Or.inr hs
  | withdrawn ht => exact Or.inr (hc.mp ht)
  | noted => exact Or.inl hp
  | discarded => exact Or.inl hp
  | _ => simp at hi

theorem stays_cancelled (h : hand.Moves p e step) (hc : e.record.status = .cancelled) :
    step.entry.record.status = .cancelled := by
  cases h with
  | dispatched ha =>
    have hn := (Entry.apply_ok ha).1
    simp [hc, Status.next?] at hn
  | noted ha =>
    have hn := (Entry.apply_ok ha).1
    simp [hc, Status.next?] at hn
  | begun => simpa using hc
  | _ => exact hc

theorem attempts_sent (h : hand.Moves p e step) (hc : hand.command? = some id)
    (hid : e.record.id = id) (id' : Identifier) :
    attempts id' (step.sent.toList.map .submit) =
      if step.sent.isSome = true ∧ id' = id then 1 else 0 := by
  rcases h.sent_cases hc with hn | ⟨-, -, hr⟩
  · simp [hn, attempts, requests]
  · simp [hr, attempts_submit, Command.Request.ofRecord, hid]

theorem sentTo_sent (h : hand.Moves p e step) (hc : hand.command? = some id)
    (hid : e.record.id = id) (device : String) :
    sentTo device (step.sent.toList.map .submit) =
      if step.sent.isSome = true ∧ e.record.device = device then [id] else [] := by
  rcases h.sent_cases hc with hn | ⟨-, -, hr⟩
  · simp [hn, sentTo, requests]
  · simp [hr, sentTo_submit, Command.Request.ofRecord, hid]

theorem attempts_after (h : hand.Moves p e step) (hc : hand.command? = some id)
    (hid : e.record.id = id) (messages : List Message) (id' : Identifier) :
    attempts id' (messages ++ step.sent.toList.map .submit) =
      attempts id' messages + if step.sent.isSome = true ∧ id' = id then 1 else 0 := by
  rw [attempts_append, h.attempts_sent hc hid]

theorem attempts_after_of_ne (h : hand.Moves p e step) (hc : hand.command? = some id)
    (hid : e.record.id = id) (messages : List Message) {id' : Identifier} (hi : id' ≠ id) :
    attempts id' (messages ++ step.sent.toList.map .submit) = attempts id' messages := by
  rw [h.attempts_after hc hid, if_neg fun hb ↦ hi hb.2, Nat.add_zero]

end Hand.Moves

/-- What was sent so far, tied to the commands accepted and to what each lane still holds. -/
structure Served (p : Retry.Policy) (s : System) (messages : List Message) : Prop where
  queued (device : String) : ∃ done, s.accepted device = done ++ (s.laneOf device).held
  sent (device : String) :
    sentTo device messages = blocks (fun id ↦ attempts id messages) (s.accepted device)
  unknown {id : Identifier} : s.entryOf? id = none → attempts id messages = 0
  untried {device : String} {id : Identifier} :
    id ∈ (s.laneOf device).waiting → attempts id messages = 0
  tried {device : String} {id : Identifier} : (s.laneOf device).hand.command? = some id →
    (s.laneOf device).hand.Tried p → 0 < attempts id messages
  finished {id : Identifier} {e : Entry} : p.overall ≠ some 0 → s.entryOf? id = some e →
    id ∉ (s.laneOf e.record.device).held →
      0 < attempts id messages ∨ e.record.status = .cancelled

theorem served_empty : Served p .empty [] where
  queued _ := ⟨[], rfl⟩
  sent _ := rfl
  unknown _ := rfl
  untried h := by cases h
  tried h := by cases h
  finished _ h := by cases h

namespace Served

theorem of_no_requests (h : Served p s messages) (hs : requests sent = []) :
    Served p s (messages ++ sent) := by
  have ha (id : Identifier) : attempts id (messages ++ sent) = attempts id messages := by
    rw [attempts_append, attempts_of_no_requests hs, Nat.add_zero]
  constructor
  case queued => exact h.queued
  case sent =>
    intro device
    simp only [ha]
    rw [sentTo_append, sentTo_of_no_requests hs, List.append_nil, h.sent]
  case unknown => exact fun he ↦ (ha _).trans (h.unknown he)
  case untried => exact fun hm ↦ (ha _).trans (h.untried hm)
  case tried => exact fun hc ht ↦ (ha _).symm ▸ h.tried hc ht
  case finished => exact fun hp he hm ↦ (ha _).symm ▸ h.finished hp he hm

theorem accept (h : Served p s messages) {record : Command.Record}
    (hn : s.entryOf? record.id = none) : Served p (s.accept record) messages := by
  constructor
  case queued =>
    intro device
    obtain ⟨done, hd⟩ := h.queued device
    refine ⟨done, ?_⟩
    rw [System.accepted_accept, System.held_accept, hd, List.append_assoc]
  case sent =>
    intro device
    rw [System.accepted_accept, blocks_append, h.sent]
    split
    · simp [blocks, h.unknown hn]
    · simp [blocks]
  case unknown =>
    intro id he
    rw [System.entryOf?_accept hn] at he
    split at he
    · cases he
    · exact h.unknown he
  case untried =>
    intro device id hm
    rw [Lane.mem_waiting, System.hand_accept, System.queue_accept, List.mem_append] at hm
    rcases hm with hm | hm | hm
    · exact h.untried (Lane.mem_waiting.mpr (Or.inl hm))
    · exact h.untried (Lane.mem_waiting.mpr (Or.inr hm))
    · split at hm
      · exact List.mem_singleton.mp hm ▸ h.unknown hn
      · cases hm
  case tried =>
    intro device id hc ht
    rw [System.hand_accept] at hc ht
    exact h.tried hc ht
  case finished =>
    intro id e hp he hm
    rw [System.held_accept, List.mem_append, not_or] at hm
    rw [System.entryOf?_accept hn] at he
    split at he
    · rename_i hi
      rw [← Option.some.inj he, if_pos (by rfl)] at hm
      exact absurd (List.mem_singleton.mpr hi) hm.2
    · exact h.finished hp he hm.1

theorem cancel (h : Served p s messages) (hs : Custody s) {e e' : Entry} {now : Instant}
    (he : s.entryOf? id = some e) (ha : e.apply now .cancel = .ok e') :
    Served p (s.setEntry id e'.interrupt) messages := by
  obtain ⟨hst, hid, hdev, -⟩ := Entry.apply_ok ha
  have hentry := System.entryOf?_setEntry_of (e := e'.interrupt) he
    (hid.trans (System.id_of_entryOf? he))
  have haccepted (device : String) :
      (s.setEntry id e'.interrupt).accepted device = s.accepted device := by
    refine hs.accepted_setEntry he ?_ ?_ device
    · exact hid
    · exact hdev
  constructor
  case queued => exact fun device ↦ haccepted device ▸ h.queued device
  case sent => exact fun device ↦ (haccepted device).symm ▸ h.sent device
  case unknown =>
    intro id' hn
    rw [hentry] at hn
    split at hn
    · cases hn
    · exact h.unknown hn
  case untried => exact h.untried
  case tried => exact h.tried
  case finished =>
    intro id' e₀ hp he₀ hm
    rw [hentry] at he₀
    split at he₀
    · exact Or.inr (Option.some.inj he₀ ▸ status_of_cancel hst)
    · exact h.finished hp he₀ hm

theorem start (h : Served p s messages) {l : Lane} {rest : List Identifier}
    (hl : s.lane? l.device = some l) (hh : l.hand = .idle) (hq : l.queue = id :: rest) :
    Served p (s.start l id rest) messages := by
  have hheld := System.held_start hl hh hq
  have hwaiting := System.waiting_start hl hh hq
  constructor
  case queued => exact fun device ↦ (hheld device).symm ▸ h.queued device
  case sent => exact h.sent
  case unknown => exact h.unknown
  case untried => exact fun hm ↦ h.untried (hwaiting _ ▸ hm)
  case tried =>
    intro device id' hc ht
    rw [System.laneOf_start hl] at hc ht
    split at ht
    · cases ht
    · rename_i hd
      rw [if_neg hd] at hc
      exact h.tried hc ht
  case finished => exact fun hp he hm ↦ h.finished hp he (hheld _ ▸ hm)

section Advance

variable {l : Lane} {e : Entry} {step : Step}

theorem queued_advance (h : Served p s messages) (hs : Custody s)
    (hl : s.lane? l.device = some l) (hc : l.hand.command? = some id)
    (he : s.entryOf? id = some e) (hm : l.hand.Moves p e step) (device : String) :
    ∃ done, (s.advance l id step).accepted device =
      done ++ ((s.advance l id step).laneOf device).held := by
  have haccepted := hs.accepted_advance he hm device
  obtain ⟨done, hd⟩ := h.queued device
  rcases System.held_advance hl hc hm device with hh | hh
  · exact ⟨done, haccepted.trans (hh ▸ hd)⟩
  · refine ⟨done ++ [id], haccepted.trans ?_⟩
    rw [hd, hh, List.append_assoc, List.singleton_append]

/-- A request goes to the end of what was sent to the device: the commands before it were sent already
and those after it wait. -/
theorem sent_begun (h : Served p s messages) (hs : Custody s) (hl : s.lane? l.device = some l)
    (hc : l.hand.command? = some id) (he : s.entryOf? id = some e) (hm : l.hand.Moves p e step)
    (hsome : step.sent.isSome = true) :
    blocks (fun id ↦ attempts id messages) (s.accepted l.device) ++ [id] =
      blocks (fun id ↦ attempts id (messages ++ step.sent.toList.map .submit))
        (s.accepted l.device) := by
  have hnamed := System.id_of_entryOf? he
  obtain ⟨done, hd⟩ := h.queued l.device
  rw [System.laneOf_of_lane? hl, Lane.held, hc, Option.toList_some, List.singleton_append] at hd
  have hnodup := hs.nodup_accepted l.device
  rw [hd] at hnodup ⊢
  refine (blocks_begun hnodup ?_ ?_ fun i hi ↦ hm.attempts_after_of_ne hc hnamed _ hi).symm
  · intro i hi
    have hw : i ∈ (s.laneOf l.device).waiting := by
      rw [System.laneOf_of_lane? hl]
      exact Lane.mem_waiting.mpr (Or.inr hi)
    exact h.untried hw
  · rw [hm.attempts_after hc hnamed, if_pos ⟨hsome, rfl⟩]

theorem sent_advance (h : Served p s messages) (hs : Custody s) (hl : s.lane? l.device = some l)
    (hc : l.hand.command? = some id) (he : s.entryOf? id = some e) (hm : l.hand.Moves p e step)
    (device : String) :
    sentTo device (messages ++ step.sent.toList.map .submit) =
      blocks (fun id ↦ attempts id (messages ++ step.sent.toList.map .submit))
        ((s.advance l id step).accepted device) := by
  have hnamed := System.id_of_entryOf? he
  rw [sentTo_append, hm.sentTo_sent hc hnamed, h.sent, hs.accepted_advance he hm device,
    hs.device_of_command? hl hc he]
  by_cases hsent : step.sent.isSome = true ∧ l.device = device
  · obtain ⟨hsome, rfl⟩ := hsent
    rw [if_pos ⟨hsome, rfl⟩]
    exact h.sent_begun hs hl hc he hm hsome
  · rw [if_neg hsent, List.append_nil]
    refine blocks_congr fun i hi ↦ ?_
    rw [hm.attempts_after hc hnamed, if_neg, Nat.add_zero]
    rintro ⟨hsome, rfl⟩
    obtain ⟨e₀, he₀, hd⟩ := hs.mem_accepted.mp hi
    obtain rfl : e = e₀ := Option.some.inj (he.symm.trans he₀)
    exact hsent ⟨hsome, (hs.device_of_command? hl hc he).symm.trans hd⟩

theorem unknown_advance (h : Served p s messages) (hc : l.hand.command? = some id)
    (he : s.entryOf? id = some e) (hm : l.hand.Moves p e step) {id' : Identifier}
    (hn : (s.advance l id step).entryOf? id' = none) :
    attempts id' (messages ++ step.sent.toList.map .submit) = 0 := by
  rw [System.entryOf?_advance he hm] at hn
  split at hn
  · cases hn
  · rename_i hi
    rw [hm.attempts_after_of_ne hc (System.id_of_entryOf? he) _ hi]
    exact h.unknown hn

theorem waiting_of_advance (hs : Custody s) (hl : s.lane? l.device = some l)
    (hc : l.hand.command? = some id) (hm : l.hand.Moves p e step) {device : String}
    {id' : Identifier} (hw : id' ∈ ((s.advance l id step).laneOf device).waiting) :
    id' ∈ (s.laneOf device).waiting ∧ id' ≠ id := by
  have hin : (s.laneOf l.device).hand.command? = some id := by
    rw [System.laneOf_of_lane? hl, hc]
  rw [Lane.mem_waiting, System.queue_advance hl] at hw
  rcases hw with hw | hw
  · rw [System.laneOf_advance hl] at hw
    split at hw
    · rw [show Hand.taken? _ = none from hm.taken?] at hw
      cases hw
    · rename_i hd
      have hwaits := Lane.mem_waiting.mpr (Or.inl hw)
      refine ⟨hwaits, ?_⟩
      rintro rfl
      have hheld := (Lane.waiting_sublist _).subset hwaits
      exact hd (hs.device_unique hheld (Lane.held_of_command? hin))
  · refine ⟨Lane.mem_waiting.mpr (Or.inr hw), ?_⟩
    rintro rfl
    exact hs.not_queued hin hw

theorem untried_advance (h : Served p s messages) (hs : Custody s)
    (hl : s.lane? l.device = some l) (hc : l.hand.command? = some id)
    (he : s.entryOf? id = some e) (hm : l.hand.Moves p e step) {device : String}
    {id' : Identifier} (hw : id' ∈ ((s.advance l id step).laneOf device).waiting) :
    attempts id' (messages ++ step.sent.toList.map .submit) = 0 := by
  obtain ⟨hbefore, hi⟩ := waiting_of_advance hs hl hc hm hw
  rw [hm.attempts_after_of_ne hc (System.id_of_entryOf? he) _ hi]
  exact h.untried hbefore

theorem attempts_pos_advance (h : Served p s messages) (hl : s.lane? l.device = some l)
    (hc : l.hand.command? = some id) (he : s.entryOf? id = some e) (hm : l.hand.Moves p e step)
    (ht : l.hand.Tried p ∨ step.sent ≠ none) :
    0 < attempts id (messages ++ step.sent.toList.map .submit) := by
  rcases ht with ht | ht
  · rw [← System.laneOf_of_lane? hl] at hc ht
    exact Nat.lt_of_lt_of_le (h.tried hc ht) (attempts_le_append _ _ _)
  · rw [hm.attempts_after hc (System.id_of_entryOf? he),
      if_pos ⟨Option.isSome_iff_ne_none.mpr ht, rfl⟩]
    exact Nat.succ_pos _

theorem tried_advance (h : Served p s messages) (hl : s.lane? l.device = some l)
    (hc : l.hand.command? = some id) (he : s.entryOf? id = some e) (hm : l.hand.Moves p e step)
    {device : String} {id' : Identifier}
    (hc' : ((s.advance l id step).laneOf device).hand.command? = some id')
    (ht : ((s.advance l id step).laneOf device).hand.Tried p) :
    0 < attempts id' (messages ++ step.sent.toList.map .submit) := by
  rw [System.laneOf_advance hl] at hc' ht
  split at ht
  · rename_i hd
    rw [if_pos hd] at hc'
    have hi : id = id' := by
      rcases hm.command? hc with hidle | hsame
      · rw [show Hand.command? _ = none from congrArg Hand.command? hidle] at hc'
        cases hc'
      · exact Option.some.inj (hsame.symm.trans hc')
    exact hi ▸ h.attempts_pos_advance hl hc he hm (hm.tried ht)
  · rename_i hd
    rw [if_neg hd] at hc'
    exact Nat.lt_of_lt_of_le (h.tried hc' ht) (attempts_le_append _ _ _)

theorem finished_advance (h : Served p s messages) (hs : Custody s)
    (hl : s.lane? l.device = some l) (hc : l.hand.command? = some id)
    (he : s.entryOf? id = some e) (hm : l.hand.Moves p e step) (hp : p.overall ≠ some 0)
    {id' : Identifier} {e' : Entry} (he' : (s.advance l id step).entryOf? id' = some e')
    (hn : id' ∉ ((s.advance l id step).laneOf e'.record.device).held) :
    0 < attempts id' (messages ++ step.sent.toList.map .submit) ∨
      e'.record.status = .cancelled := by
  rw [System.entryOf?_advance he hm] at he'
  split at he'
  · rename_i hi
    obtain rfl : step.entry = e' := Option.some.inj he'
    rw [hm.keeps_entry.2.1, hs.device_of_command? hl hc he, hi] at hn
    have hidle : step.hand = .idle := by
      refine (hm.command? hc).resolve_right fun hsame ↦ hn ?_
      rw [System.laneOf_advance hl, if_pos rfl]
      exact Lane.held_of_command? hsame
    have hsuits := hs.inHand.of_lane? hl hc he
    exact hi ▸ (hm.tried_or_cancelled hp hsuits (hs.signalled he) hidle).imp_left
      fun ht ↦ h.attempts_pos_advance hl hc he hm (Or.inl ht)
  · rename_i hi
    refine (h.finished hp he' fun hk ↦ hn ?_).imp_left fun ht ↦
      Nat.lt_of_lt_of_le ht (attempts_le_append _ _ _)
    rcases System.held_advance hl hc hm e'.record.device with hd | hd
    · exact hd ▸ hk
    · rw [hd, List.mem_cons] at hk
      exact hk.resolve_left hi

theorem advance (h : Served p s messages) (hs : Custody s) (hl : s.lane? l.device = some l)
    (hc : l.hand.command? = some id) (he : s.entryOf? id = some e)
    (hm : l.hand.Moves p e step) :
    Served p (s.advance l id step) (messages ++ step.sent.toList.map .submit) where
  queued := h.queued_advance hs hl hc he hm
  sent := h.sent_advance hs hl hc he hm
  unknown := h.unknown_advance hc he hm
  untried := h.untried_advance hs hl hc he hm
  tried := h.tried_advance hl hc he hm
  finished hp := h.finished_advance hs hl hc he hm hp

end Advance

theorem moves (h : Served p s messages) (hs : Custody s) (hm : s.Moves settings p t sent) :
    Served p t (messages ++ sent) := by
  cases hm with
  | submitted ha hr hn => exact (h.accept hn).of_no_requests rfl
  | unchanged => exact h.of_no_requests rfl
  | cancelled he ha => exact (h.cancel hs he ha).of_no_requests rfl
  | taken hl hh hq => exact (h.start hl hh hq).of_no_requests rfl
  | happened hl hc he hm => exact h.advance hs hl hc he hm

end Served

theorem Run.served (h : Run settings p .empty labels messages s) : Served p s messages :=
  (h.keeps (P := fun t before ↦ Custody t ∧ Served p t before) ⟨custody_empty, served_empty⟩
    fun _ _ _ _ ⟨hc, hv⟩ hm ↦ ⟨hc.moves hm, hv.moves hc hm⟩).2

end FleetControl.Dispatch
