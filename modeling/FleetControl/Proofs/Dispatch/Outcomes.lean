import FleetControl.Proofs.Dispatch.Origin
import FleetControl.Proofs.Dispatch.Progress
import FleetControl.Proofs.Dispatch.Withdrawal
import FleetControl.Proofs.Rehearsal.Replies

namespace FleetControl.Dispatch

open Command (Status Event Record)
open Rehearsal (CallReply Deliveries Brings Concludes Scripted settledAt? settledAt?_eq_some
  settledAt?_eq_none brings_succ)

variable {settings : Settings} {p : Retry.Policy} {script : Deliveries} {s t : System}
  {labels : List Label} {messages sent : List Message} {id : Identifier} {n : ℕ} {e e' : Entry}
  {hand : Hand} {step : Step} {now : Instant} {event : Event}

/-- Whether a hand is where the script may have brought it, with a command of so many attempts. -/
def OnScript (p : Retry.Policy) (script : Deliveries) (n : ℕ) : Hand → Prop
  | .delivering id (.ready k) => Brings p (script id) k
  | .delivering id (.inFlight k) => Brings p (script id) k
  | .delivering id (.waiting k) => Brings p (script id) (k + 1)
  | .settled id event => Concludes p (script id) n event
  | _ => True

theorem onScript_afterAttempt (h : Brings p (script id) n) (hn : n ≤ p.attempts) :
    OnScript p script n (.afterAttempt p id n ((script id n).ending p)) := by
  unfold Hand.afterAttempt
  rcases (script id n).verdict_ending p n with ⟨hs, ⟨body, ha, hv⟩ | ⟨error, ha, hv⟩⟩ | ⟨hs, hv⟩
  · rw [hv]
    exact .answered (settledAt?_eq_some.mpr ⟨hs, hn, h⟩) ha
  · rw [hv]
    exact .rejected (settledAt?_eq_some.mpr ⟨hs, hn, h⟩) ha
  · rw [hv]
    dsimp only
    split
    · exact brings_succ h hs
    · rename_i hlast
      obtain rfl : n = p.attempts := Nat.le_antisymm hn (Nat.le_of_not_lt hlast)
      -- no attempt before the last settled the delivery, and the last did not either
      refine .exhausted (settledAt?_eq_none.mpr fun k hk hkn ↦ ?_)
      exact (brings_succ h hs).2 k hk (Nat.lt_add_one_iff.mpr hkn)

def Continues (p : Retry.Policy) (script : Deliveries) (hand hand' : Hand) : Prop :=
  ∀ id n, hand = .delivering id (.inFlight n) → hand' = hand ∨ hand' = .idle ∨
    hand' = .afterAttempt p id n ((script id n).ending p)

theorem continues_of_step {happening : Happening} (hp : p.overall = none)
    (hf : Rehearsal.follows p script hand happening) (h : hand.step p e happening = some step) :
    Continues p script hand step.hand := by
  rintro id n rfl
  right
  cases hi : e.interrupted with
  | true =>
    cases happening with
    | interrupted =>
      simp only [Hand.step, hi, if_true, Option.some.injEq] at h
      exact Or.inl (by rw [← h])
    | _ => simp [Hand.step, hi] at h
  | false =>
    cases happening with
    | answered a =>
      have hanswer : (script id n).ending p = some a := hf
      simp only [Hand.step, hi, Bool.false_eq_true, if_false, Option.some.injEq] at h
      exact Or.inr (by rw [← h, hanswer])
    | late =>
      have hlate : (script id n).ending p = none := hf
      simp only [Hand.step, hi, Bool.false_eq_true, if_false, Option.some.injEq] at h
      exact Or.inr (by rw [← h, hlate])
    | deadline => simp [Hand.step, hi, Stage.mayExpire, hp] at h
    | _ => simp [Hand.step, hi] at h

theorem Continues.onScript {hand' : Hand} {k : ℕ}
    (hf : Continues p script (.delivering id (.inFlight k)) hand')
    (hc : (Hand.delivering id (.inFlight k)).Counts p n)
    (h : OnScript p script n (.delivering id (.inFlight k))) : OnScript p script n hand' := by
  obtain ⟨rfl, hn⟩ := hc
  rcases hf id k rfl with rfl | rfl | rfl
  · exact h
  · trivial
  · exact onScript_afterAttempt h hn

theorem Stage.Ends.inFlight_of_untimed {stage : Stage} {r : Retry.Result Json} (h : stage.Ends p r)
    (hp : p.overall = none) : ∃ n, stage = .inFlight n := by
  cases h with
  | @settled n => exact ⟨n, rfl⟩
  | @exhausted n => exact ⟨n, rfl⟩
  | expired hx => cases stage <;> simp [Stage.mayExpire, hp] at hx

theorem Hand.Moves.onScript (hm : hand.Moves p e step) (hp : p.overall = none)
    (hf : Continues p script hand step.hand) (hc : hand.Counts p e.record.attempts)
    (h : OnScript p script e.record.attempts hand) :
    OnScript p script step.entry.record.attempts step.hand := by
  cases hm with
  | dispatched =>
    exact ⟨Nat.le_refl 1, fun k hk hlt ↦ absurd hlt (Nat.not_lt.mpr hk)⟩
  | begun => exact h
  | failed => exact hf.onScript hc h
  | waited => exact h
  | @ended id stage r event hi hends ho =>
    obtain ⟨k, rfl⟩ := hends.inFlight_of_untimed hp
    exact hf.onScript hc h
  | _ => trivial

def Shows (r : Record) : Event → Prop
  | .complete body => r.status = .completed ∧ r.result = some body
  | .fail failure => r.status = .failed ∧ r.error = some failure
  | _ => False

theorem status_of_complete {status status' : Status} {body : Json}
    (h : status.next? (.complete body) = some status') : status' = .completed := by
  cases status <;> simp_all [Status.next?]

theorem shows_of_concludes {replies : ℕ → CallReply} (h : Concludes p replies n event)
    (ha : e.apply now event = .ok e') : Shows e'.record event := by
  have hs := (Entry.apply_ok ha).1
  have hr := Entry.apply_record ha
  cases h with
  | answered => exact ⟨status_of_complete hs, by rw [hr]; rfl⟩
  | _ => exact ⟨status_of_fail hs, by rw [hr]; rfl⟩

def Delivered (p : Retry.Policy) (script : Deliveries) (r : Record) : Prop :=
  r.status = .completed ∨ r.status = .failed →
    ∃ event, Concludes p (script r.id) r.attempts event ∧ Shows r event

theorem Hand.Moves.delivered (hm : hand.Moves p e step) (hs : hand.Suits e)
    (hc : hand.command? = some e.record.id) (h : OnScript p script e.record.attempts hand)
    (hd : Delivered p script e.record) : Delivered p script step.entry.record := by
  cases hm with
  | dispatched ha =>
    intro hover
    simp [(status_of_dispatch (Entry.apply_ok ha).1).2] at hover
  | begun =>
    intro hover
    rw [Entry.recordAttempt_status] at hover
    rcases hs with hs | hs <;> simp [hs] at hover
  | noted ha =>
    intro _
    obtain rfl := Option.some.inj hc
    refine ⟨_, ?_, shows_of_concludes h ha⟩
    rw [(Entry.apply_ok ha).2.1, Entry.apply_attempts ha]
    exact h
  | _ => exact hd

/-- The commands that were delivered, and those in hand, are as the script has it. -/
structure AsScripted (p : Retry.Policy) (script : Deliveries) (s : System) : Prop where
  records {id : Identifier} {e : Entry} : s.entryOf? id = some e → Delivered p script e.record
  hands : s.InHand fun hand e ↦ OnScript p script e.record.attempts hand

theorem asScripted_empty : AsScripted p script .empty where
  records h := by cases h
  hands := System.inHand_empty

theorem AsScripted.moves (h : AsScripted p script s) (hs : Custody s) (ht : Tallied p s messages)
    (hp : p.overall = none) (hm : s.Moves settings p t sent)
    (hf : ∀ device, Continues p script (s.laneOf device).hand (t.laneOf device).hand) :
    AsScripted p script t := by
  constructor
  case records =>
    intro id e he
    cases hm.touches id with
    | spared hsame => exact h.records (hsame ▸ he)
    | created hn hnew =>
      obtain rfl := Option.some.inj (hnew.symm.trans he)
      intro hover
      simp [Entry.new, Record.new] at hover
    | @withdrawn e₀ e' now he₀ ha hnew =>
      obtain rfl := Option.some.inj (hnew.symm.trans he)
      have hc : e'.record.status = .cancelled := status_of_cancel (Entry.apply_ok ha).1
      intro hover
      simp [Entry.interrupt, hc] at hover
    | @advanced l e₀ step hl hc he₀ hstep hnew =>
      obtain rfl := Option.some.inj (hnew.symm.trans he)
      have hon : OnScript p script e₀.record.attempts l.hand := h.hands.of_lane? hl hc he₀
      exact hstep.delivered (hs.inHand.of_lane? hl hc he₀) (System.id_of_entryOf? he₀ ▸ hc) hon
        (h.records he₀)
  case hands =>
    cases hm with
    | submitted _ _ hn => exact h.hands.accept hs hn
    | unchanged => exact h.hands
    | @cancelled id e e' now he ha =>
      refine h.hands.cancel he (Entry.apply_ok ha).2.1 fun hand hon ↦ ?_
      exact (Entry.apply_attempts ha).symm ▸ hon
    | taken hl => exact h.hands.start hl fun _ _ ↦ trivial
    | @happened l id e step hl hc he hstep =>
      have hon : OnScript p script e.record.attempts l.hand := h.hands.of_lane? hl hc he
      have hcounts : l.hand.Counts p e.record.attempts := ht.hands.of_lane? hl hc he
      -- the other lanes keep their hands, so only this one has to go on as the script says
      have hcont := hf l.device
      rw [System.laneOf_of_lane? hl, System.laneOf_advance hl, if_pos rfl] at hcont
      exact h.hands.advance hs hl hc he hstep (hstep.onScript hp hcont hcounts hon)

theorem continues_of_eq {hand' : Hand} (h : hand' = hand) : Continues p script hand hand' :=
  fun _ _ _ ↦ Or.inl h

theorem System.continues_of_step {label : Label} (hp : p.overall = none)
    (ha : Rehearsal.admits p script s label) (h : s.step settings p label = some (t, sent))
    (device : String) : Continues p script (s.laneOf device).hand (t.laneOf device).hand := by
  by_cases hl : label.lane? = some device
  · cases does_of_step h with
    | taken hlane hidle =>
      obtain rfl := Option.some.inj hl
      intro id n hhand
      rw [laneOf_of_lane? hlane, hidle] at hhand
      cases hhand
    | @happened l _ _ happening _ hlane _ _ hstep =>
      obtain rfl := Option.some.inj hl
      have hfollows : Rehearsal.follows p script (s.laneOf l.device).hand happening := ha.2
      rw [laneOf_of_lane? hlane] at hfollows
      rw [laneOf_advance hlane, if_pos rfl, laneOf_of_lane? hlane]
      exact Dispatch.continues_of_step hp hfollows hstep
    | _ => cases hl
  · exact continues_of_eq (hand_of_step h hl)

theorem asScripted_of_scripted (hp : p.overall = none)
    (h : Scripted settings p script .empty labels messages s) : AsScripted p script s := by
  induction h with
  | nil => exact asScripted_empty
  | snoc hrun ha hs ih =>
    have hbefore := scripted_run hrun
    exact ih.moves hbefore.custody hbefore.tallied hp (System.moves_of_step ha.1 hs)
      (System.continues_of_step hp ha hs)

/-- The end of a delivery for which there is no time limit. A command that is not cancelled comes to its
end by what happens on its own lane alone, and once it is in hand it does so in a bounded number of steps,
whatever else happens. The first attempt that settles the delivery is the last one made, and its answer is
kept; when none of the attempts allowed settles it, all of them are made, and the failure of the last is
kept. All requests for the command are the same. -/
theorem deliveries_concluded (hp : p.overall = none)
    (h : Scripted settings p script .empty labels messages s) (he : s.entryOf? id = some e)
    (hc : e.record.status ≠ .cancelled) :
    (∃ labels' messages' t e', Scripted settings p script s labels' messages' t ∧
      (∀ label ∈ labels', label.lane? = some e.record.device) ∧ t.entryOf? id = some e' ∧
        e'.record.status ≠ .cancelled ∧ e'.record.status.isTerminal = true) ∧
    (∀ device labels' messages' t, (s.laneOf device).hand.command? = some id →
      Scripted settings p script s labels' messages' t →
        3 * (p.attempts + 1) ≤ labels'.countP (fun label ↦ label.lane? == some device) →
          ∃ e', t.entryOf? id = some e' ∧ e'.record.status.isTerminal = true) ∧
    (e.record.status.isTerminal = true →
      (∀ n, settledAt? p (script id) = some n → attempts id messages = n ∧ e.record.attempts = n ∧
        ((∃ body, (script id n).inTime p = some (.ok body) ∧ e.record.status = .completed ∧
            e.record.result = some body) ∨
          ∃ error, (script id n).inTime p = some (.error error) ∧ error.isRetryable = false ∧
            e.record.status = .failed ∧ e.record.error = some (.rejected error.message))) ∧
      (settledAt? p (script id) = none →
        attempts id messages = p.attempts ∧ e.record.attempts = p.attempts ∧
          e.record.status = .failed ∧ e.record.error =
            some (.unreachable p.attempts ((script id p.attempts).failureText p)))) ∧
    ∀ r ∈ requests messages, r.command = id → r = .ofRecord e.record := by
  have hrun := scripted_run h
  refine ⟨scripted_ends h he hc,
    fun _ _ _ _ hheld h' hmany ↦ hrun.delivery_ends (scripted_run h') hheld hmany, ?_, ?_⟩
  · intro hover
    have hcount := (hrun.tallied.records he).attempts
    have hdone : e.record.status = .completed ∨ e.record.status = .failed := by
      cases hs : e.record.status <;> simp_all [Status.isTerminal]
    obtain ⟨event, hevent, hshows⟩ := (asScripted_of_scripted hp h).records he hdone
    rw [System.id_of_entryOf? he] at hevent
    rw [← hcount]
    constructor
    · intro n hn
      obtain ⟨hm, hcase⟩ := hevent.of_settled hn
      refine ⟨hm, hm, hcase.imp ?_ ?_⟩
      · rintro ⟨body, ha, rfl⟩
        exact ⟨body, ha, hshows⟩
      · rintro ⟨error, ha, hfinal, rfl⟩
        exact ⟨error, ha, hfinal, hshows⟩
    · intro hnone
      obtain ⟨hm, rfl⟩ := hevent.of_exhausted hnone
      exact ⟨hm, hm, hshows⟩
  · rintro r hr rfl
    have hsent := hrun.request?_of_sent hr
    rw [System.request?, he] at hsent
    exact (Option.some.inj hsent).symm

/-- Replies that leave the first attempt without an answer, refuse the second for the moment, and take
the third. -/
def thirdTime : Deliveries := fun _ n =>
  if n = 1 then ⟨0, none⟩
  else if n = 2 then ⟨20, some (.error (.status 503 "busy"))⟩
  else ⟨20, some (.ok (.bool true))⟩

theorem deliveries_concluded_thirdTime : ∃ labels messages s e,
    Scripted .standard { Retry.Policy.standard with overall := none } thirdTime .empty labels
      messages s ∧ s.entryOf? ⟨1⟩ = some e ∧ attempts ⟨1⟩ messages = 3 ∧
        e.record.status = .completed ∧ e.record.result = some (.bool true) := by
  let p : Retry.Policy := { Retry.Policy.standard with overall := none }
  let submission : Submission := ⟨"drone-7", "capture_photo", [], none, false⟩
  obtain ⟨⟨s, sent⟩, hs⟩ : ∃ result,
      System.empty.step .standard p (.submit ⟨1⟩ (.ofMillis 0) submission) = some result :=
    Option.isSome_iff_exists.mp (by decide)
  have hseen : (System.empty.step .standard p (.submit ⟨1⟩ (.ofMillis 0) submission)).map
      (fun result ↦ (result.1.entryOf? ⟨1⟩).map fun e ↦ e.record.status) =
        some (some .pending) := by decide
  rw [hs, Option.map_some, Option.some.injEq] at hseen
  obtain ⟨e, he, hpending⟩ := Option.map_eq_some_iff.mp hseen
  have hfirst : Rehearsal.admits p thirdTime .empty (.submit ⟨1⟩ (.ofMillis 0) submission) :=
    ⟨rfl, trivial⟩
  have hsubmitted : Scripted .standard p thirdTime .empty _ _ s := .snoc .nil hfirst hs
  obtain ⟨⟨labels, messages, t, e', ht, -, he', hne, hover⟩, -, -⟩ :=
    deliveries_concluded rfl hsubmitted he (by simp [hpending])
  have hall := scripted_trans hsubmitted ht
  obtain ⟨-, -, hends, -⟩ := deliveries_concluded rfl hall he' hne
  have hthird : settledAt? p (thirdTime ⟨1⟩) = some 3 := by decide
  obtain ⟨hsent, -, ⟨body, ha, hdone, hbody⟩ | ⟨error, ha, -⟩⟩ := (hends hover).1 3 hthird
  · obtain rfl : Json.bool true = body := Except.ok.inj (Option.some.inj ha)
    exact ⟨_, _, t, e', hall, he', hsent, hdone, hbody⟩
  · cases ha

end FleetControl.Dispatch
