import FleetControl.Proofs.Dispatch.Attempts
import FleetControl.Proofs.Dispatch.Withdrawal
import FleetControl.Rehearsal.Deliveries

namespace FleetControl.Dispatch

open Rehearsal (Deliveries Scripted)

variable {settings : Settings} {p : Retry.Policy} {script : Deliveries} {s t : System}
  {labels : List Label} {messages sent : List Message} {id : Identifier} {n : ℕ} {e : Entry}
  {hand : Hand} {step : Step}

theorem scripted_run (h : Scripted settings p script s labels messages t) :
    Run settings p s labels messages t := by
  induction h with
  | nil => exact .nil
  | snoc _ ha hs ih => exact ih.snoc ha.1 hs

theorem scripted_trans {u : System} {labels' : List Label} {messages' : List Message}
    (h : Scripted settings p script s labels messages t)
    (h' : Scripted settings p script t labels' messages' u) :
    Scripted settings p script s (labels ++ labels') (messages ++ messages') u := by
  induction h' with
  | nil => simpa only [List.append_nil] using h
  | snoc _ ha hs ih => simpa only [List.append_assoc] using ih.snoc ha hs

/-- How many steps the command in hand has at most before it. -/
def Hand.left (p : Retry.Policy) : Hand → ℕ
  | .idle => 0
  | .settled _ _ => 1
  | .delivering _ (.waiting n) => 3 * (p.attempts - n) + 1
  | .delivering _ (.inFlight n) => 3 * (p.attempts - n) + 2
  | .delivering _ (.ready n) => 3 * (p.attempts - n) + 3
  | .taken _ => 3 * p.attempts + 1

def Lane.left (p : Retry.Policy) (l : Lane) : ℕ :=
  l.hand.left p + l.queue.length * (3 * p.attempts + 2)

theorem Hand.left_le (hand : Hand) : hand.left p ≤ 3 * (p.attempts + 1) := by
  cases hand with
  | delivering id stage => cases stage <;> (simp only [Hand.left]; omega)
  | _ => simp only [Hand.left]; omega

theorem Hand.left_pos (hc : hand.command? = some id) : 0 < hand.left p := by
  cases hand with
  | idle => cases hc
  | delivering id stage => cases stage <;> exact Nat.succ_pos _
  | _ => exact Nat.succ_pos _

theorem Lane.held_of_left {l : Lane} (h : l.left p = 0) : l.held = [] := by
  obtain ⟨hhand, hqueue⟩ := Nat.add_eq_zero_iff.mp h
  have hidle : l.hand.command? = none := by
    refine Option.eq_none_iff_forall_ne_some.mpr fun id hc ↦ ?_
    exact Nat.ne_of_gt (Hand.left_pos hc) hhand
  have hempty : l.queue = [] :=
    List.length_eq_zero_iff.mp ((Nat.mul_eq_zero.mp hqueue).resolve_right (Nat.succ_ne_zero _))
  rw [Lane.held, hidle, hempty]
  rfl

theorem Lane.left_of_held {l : Lane} (h : l.held = []) : l.left p = 0 := by
  obtain ⟨hc, hq⟩ := List.append_eq_nil_iff.mp h
  cases hl : l.hand <;> simp_all [Hand.command?, Lane.left, Hand.left]

theorem Hand.Moves.left_lt (hm : hand.Moves p e step) (hc : hand.Counts p e.record.attempts) :
    step.hand.left p < hand.left p := by
  cases hm with
  | dispatched =>
    have hpos : 1 ≤ p.attempts := Nat.le_max_right _ _
    simp only [Hand.left]
    omega
  | waited =>
    obtain ⟨rfl, hlt⟩ := hc
    simp only [Hand.left]
    omega
  | @ended id stage =>
    cases stage with
    | waiting n =>
      -- an attempt is waited for only while one is left
      obtain ⟨rfl, hlt⟩ := hc
      simp only [Hand.left]
      omega
    | _ => simp [Hand.left]
  | @withdrawn id stage => cases stage <;> exact Nat.succ_pos _
  | _ => simp [Hand.left]

theorem Hand.exists_step (script : Deliveries) (hc : hand.command? = some id) (e : Entry) :
    ∃ happening, Rehearsal.follows p script hand happening ∧
      (hand.step p e happening).isSome = true := by
  cases hand with
  | idle => cases hc
  | taken id =>
    refine ⟨.dispatch (.ofMillis 0), trivial, ?_⟩
    cases ha : e.apply (.ofMillis 0) .dispatch <;> simp [Hand.step, ha]
  | settled id event =>
    refine ⟨.settle (.ofMillis 0), trivial, ?_⟩
    cases ha : e.apply (.ofMillis 0) event <;> simp [Hand.step, ha]
  | delivering id stage =>
    cases hi : e.interrupted with
    | true => exact ⟨.interrupted, by cases stage <;> trivial, by simp [Hand.step, hi]⟩
    | false =>
      cases stage with
      | ready n => exact ⟨.begin, trivial, by simp [Hand.step, hi]⟩
      | inFlight n =>
        cases ha : (script id n).ending p with
        | none => exact ⟨.late, ha, by simp [Hand.step, hi]⟩
        | some a => exact ⟨.answered a, ha, by simp [Hand.step, hi]⟩
      | waiting n => exact ⟨.waited, trivial, by simp [Hand.step, hi]⟩

theorem System.hand_of_step {label : Label} {device : String}
    (h : s.step settings p label = some (t, sent)) (hl : label.lane? ≠ some device) :
    (t.laneOf device).hand = (s.laneOf device).hand := by
  cases does_of_step h with
  | rejected => rfl
  | submitted => exact hand_accept device
  | refused => rfl
  | cancelled => rfl
  | @taken l _ _ hlane =>
    have hne : device ≠ l.device := fun hd ↦ hl (hd ▸ rfl)
    rw [laneOf_start hlane, if_neg hne]
  | @happened l _ _ _ _ hlane =>
    have hne : device ≠ l.device := fun hd ↦ hl (hd ▸ rfl)
    rw [laneOf_advance hlane, if_neg hne]

theorem System.take?_of_waiting {l : Lane} {rest : List Identifier}
    (hl : s.lane? l.device = some l) (hh : l.hand = .idle) (hq : l.queue = id :: rest) :
    s.take? l.device = some (s.start l id rest) := by
  simp [System.take?, hl, Lane.take?, hh, hq, System.start]

theorem System.happen?_of_step {l : Lane} {happening : Happening} (hl : s.lane? l.device = some l)
    (hc : l.hand.command? = some id) (he : s.entryOf? id = some e)
    (hstep : l.hand.step p e happening = some step) :
    s.happen? p l.device happening = some (s.advance l id step, step.sent) := by
  simp [System.happen?, hl, hc, he, hstep, System.advance]

/-- A lane that has something to do can take a step, with which less is left to be done. -/
theorem Tallied.exists_step (ht : Tallied p s messages) (hs : Custody s) (settings : Settings)
    (script : Deliveries) {device : String} (hbusy : 0 < (s.laneOf device).left p) :
    ∃ label t sent, label.lane? = some device ∧ Rehearsal.admits p script s label ∧
      s.step settings p label = some (t, sent) ∧
        (t.laneOf device).left p < (s.laneOf device).left p := by
  have hheld : ∃ id, id ∈ (s.laneOf device).held := by
    refine List.exists_mem_of_ne_nil _ fun hempty ↦ ?_
    rw [Lane.left_of_held hempty] at hbusy
    exact Nat.lt_irrefl 0 hbusy
  obtain ⟨id₀, hid₀⟩ := hheld
  have hl := System.lane?_of_held hid₀
  generalize hlane : s.laneOf device = l at hl hid₀ hbusy ⊢
  obtain rfl := System.device_of_lane? hl
  cases hc : l.hand.command? with
  | none =>
    have hh : l.hand = .idle := by cases hhand : l.hand <;> simp_all [Hand.command?]
    rw [Lane.held, hc, Option.toList_none, List.nil_append] at hid₀
    obtain ⟨id, rest, hq⟩ := List.exists_cons_of_ne_nil (List.ne_nil_of_mem hid₀)
    refine ⟨.take l.device, s.start l id rest, [], rfl, ⟨trivial, trivial⟩, ?_, ?_⟩
    · simp [System.step, System.take?_of_waiting hl hh hq]
    · rw [System.laneOf_start hl, if_pos rfl]
      simp only [Lane.left, Hand.left, hh, hq, List.length_cons, Nat.succ_mul]
      omega
  | some id =>
    obtain ⟨e, he, -⟩ := hs.owned (hlane.symm ▸ Lane.held_of_command? hc)
    have hcounts : l.hand.Counts p e.record.attempts := ht.hands.of_lane? hl hc he
    obtain ⟨happening, hf, hsome⟩ := Hand.exists_step script hc e
    obtain ⟨step, hstep⟩ := Option.isSome_iff_exists.mp hsome
    refine ⟨.happen l.device happening, s.advance l id step, step.sent.toList.map .submit, rfl,
      ⟨trivial, ?_⟩, ?_, ?_⟩
    · have hnext : Rehearsal.follows p script (s.laneOf l.device).hand happening := by
        rw [hlane]
        exact hf
      exact hnext
    · simp [System.step, System.happen?_of_step hl hc he hstep]
    · rw [System.laneOf_advance hl, if_pos rfl]
      exact Nat.add_lt_add_right ((Hand.moves_of_step hstep).left_lt hcounts) _

/-- How far a delivery has come: its command is over, or it is still in hand and has fewer steps before it
by as many as were made on its lane. -/
theorem Run.delivery_goes_on {labels' : List Label} {messages' : List Message} {device : String}
    (h : Run settings p .empty labels messages s) (h' : Run settings p s labels' messages' t)
    (hc : (s.laneOf device).hand.command? = some id) :
    (∃ e, t.entryOf? id = some e ∧ e.record.status.isTerminal = true) ∨
      (t.laneOf device).hand.command? = some id ∧
        (t.laneOf device).hand.left p + labels'.countP (fun label ↦ label.lane? == some device) ≤
          (s.laneOf device).hand.left p := by
  induction h' with
  | nil => exact Or.inr ⟨hc, by simp⟩
  | @snoc labels' messages' sent t u label hrun ha hstep ih =>
    have hbefore := h.trans hrun
    have hm := System.moves_of_step ha hstep
    rcases ih with ⟨e, he, hover⟩ | ⟨hheld, hless⟩
    · exact Or.inl ⟨e, hm.entryOf?_of_isTerminal he hover, hover⟩
    rw [List.countP_append, List.countP_singleton]
    by_cases hl : label.lane? = some device
    · cases System.does_of_step hstep with
      | taken hlane hidle =>
        obtain rfl := Option.some.inj hl
        rw [System.laneOf_of_lane? hlane, hidle] at hheld
        cases hheld
      | @happened l id' e happening step hlane hcmd he hs =>
        obtain rfl := Option.some.inj hl
        have hmoves := Hand.moves_of_step hs
        rw [System.laneOf_of_lane? hlane] at hheld hless
        obtain rfl : id' = id := Option.some.inj (hcmd.symm.trans hheld)
        have hsuits := hbefore.custody.inHand.of_lane? hlane hcmd he
        have hcounts : l.hand.Counts p e.record.attempts :=
          hbefore.tallied.hands.of_lane? hlane hcmd he
        rw [System.laneOf_advance hlane, if_pos rfl, System.entryOf?_advance he hmoves, if_pos rfl]
        rcases hmoves.command? hcmd with hidle | hsame
        · exact Or.inl ⟨_, rfl, hmoves.over hsuits (hbefore.custody.signalled he) hidle⟩
        · have hlt := hmoves.left_lt hcounts
          have hown : ((Label.happen l.device happening).lane? == some l.device) = true := by
            simp [Label.lane?]
          rw [if_pos hown]
          refine Or.inr ⟨hsame, ?_⟩
          dsimp only
          omega
      | _ => cases hl
    · rw [System.hand_of_step hstep hl, if_neg (by simpa using hl)]
      exact Or.inr ⟨hheld, hless⟩

/-- A delivery takes no more than three steps for each attempt and three besides, whatever happens on
other lanes meanwhile. -/
theorem Run.delivery_ends {labels' : List Label} {messages' : List Message} {device : String}
    (h : Run settings p .empty labels messages s) (h' : Run settings p s labels' messages' t)
    (hc : (s.laneOf device).hand.command? = some id)
    (hmany : 3 * (p.attempts + 1) ≤ labels'.countP fun label ↦ label.lane? == some device) :
    ∃ e, t.entryOf? id = some e ∧ e.record.status.isTerminal = true := by
  refine (h.delivery_goes_on h' hc).resolve_right ?_
  rintro ⟨hheld, hless⟩
  have hpos : 0 < (t.laneOf device).hand.left p := Hand.left_pos hheld
  have hle : (s.laneOf device).hand.left p ≤ 3 * (p.attempts + 1) := Hand.left_le _
  omega

theorem Hand.Moves.not_cancelled (hm : hand.Moves p e step) (hs : hand.Suits e)
    (hc : e.record.status ≠ .cancelled) : step.entry.record.status ≠ .cancelled := by
  cases hm with
  | dispatched ha => simp [(status_of_dispatch (Entry.apply_ok ha).1).2]
  | begun => simpa using hc
  | noted ha =>
    obtain ⟨-, hf | hf⟩ := status_of_ends hs.1 (Entry.apply_ok ha).1 <;> simp [hf]
  | _ => exact hc

theorem Custody.isCancelled_of_step (hs : Custody s) {label : Label} {device : String}
    (hl : label.lane? = some device) (h : s.step settings p label = some (t, sent))
    (hc : s.isCancelled id = false) : t.isCancelled id = false := by
  cases System.does_of_step h with
  | taken => exact hc
  | @happened l _ e _ _ hlane hcmd he hstep =>
    have hm := Hand.moves_of_step hstep
    rw [System.isCancelled, System.entryOf?_advance he hm]
    split
    · rename_i hi
      subst hi
      have hne : e.record.status ≠ .cancelled := by simpa [System.isCancelled, he] using hc
      simpa using hm.not_cancelled (hs.inHand.of_lane? hlane hcmd he) hne
    · exact hc
  | _ => cases hl

/-- However a script goes on, a lane comes to rest by itself, and cancels nothing on the way. -/
theorem scripted_finish (h : Scripted settings p script .empty labels messages s)
    (device : String) : ∃ labels' messages' t, Scripted settings p script s labels' messages' t ∧
      (∀ label ∈ labels', label.lane? = some device) ∧ (t.laneOf device).held = [] ∧
        ∀ id, s.isCancelled id = false → t.isCancelled id = false := by
  induction hleft : (s.laneOf device).left p using Nat.strongRecOn
    generalizing s labels messages with
  | _ left ih =>
    subst hleft
    have hrun := scripted_run h
    rcases Nat.eq_zero_or_pos ((s.laneOf device).left p) with hzero | hbusy
    · exact ⟨[], [], s, .nil, by simp, Lane.held_of_left hzero, fun _ hc ↦ hc⟩
    · obtain ⟨label, t, sent, hlane, ha, hstep, hless⟩ :=
        hrun.tallied.exists_step hrun.custody settings script hbusy
      obtain ⟨labels', messages', u, hu, hown, hidle, hkeep⟩ := ih _ hless (h.snoc ha hstep) rfl
      have hfirst : Scripted settings p script s ([] ++ [label]) ([] ++ sent) t := .snoc .nil ha hstep
      refine ⟨[label] ++ labels', sent ++ messages', u, scripted_trans hfirst hu, ?_, hidle, ?_⟩
      · intro label' hl'
        rcases List.mem_append.mp hl' with hl' | hl'
        · exact List.mem_singleton.mp hl' ▸ hlane
        · exact hown label' hl'
      · exact fun id hc ↦ hkeep id (hrun.custody.isCancelled_of_step hlane hstep hc)

theorem scripted_ends (h : Scripted settings p script .empty labels messages s)
    (he : s.entryOf? id = some e) (hc : e.record.status ≠ .cancelled) :
    ∃ labels' messages' t e', Scripted settings p script s labels' messages' t ∧
      (∀ label ∈ labels', label.lane? = some e.record.device) ∧ t.entryOf? id = some e' ∧
        e'.record.status ≠ .cancelled ∧ e'.record.status.isTerminal = true := by
  obtain ⟨labels', messages', t, ht, hown, hidle, hkeep⟩ := scripted_finish h e.record.device
  have hafter := (scripted_run h).trans (scripted_run ht)
  obtain ⟨e', he', hd⟩ := (scripted_run ht).tracked he
  have hopen : s.isCancelled id = false := by simp [System.isCancelled, he, hc]
  have hne : e'.record.status ≠ .cancelled := by
    simpa [System.isCancelled, he'] using hkeep id hopen
  have hover : e'.record.status.isTerminal = true := by
    refine (hafter.custody.kept he').resolve_right fun hm ↦ ?_
    rw [hd, hidle] at hm
    cases hm
  exact ⟨labels', messages', t, e', ht, hown, he', hne, hover⟩

end FleetControl.Dispatch
