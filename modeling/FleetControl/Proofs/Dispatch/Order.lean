import FleetControl.Proofs.Dispatch.Served

namespace FleetControl.Dispatch

variable {settings : Settings} {p : Retry.Policy} {s t : System} {labels : List Label}
  {messages sent : List Message} {id : Identifier} {device : String}

theorem Hand.command?_of_inFlight? {hand : Hand} (h : hand.inFlight? = some id) :
    hand.command? = some id := by
  cases hand with
  | delivering id' stage => cases stage <;> simp_all [Hand.inFlight?, Hand.command?]
  | _ => simp [Hand.inFlight?] at h

theorem Custody.inFlight_le_one (h : Custody s) (device : String) :
    (s.inFlight device).length ≤ 1 := by
  have hone : s.lanes.countP (fun l ↦ l.device == device) ≤ 1 := by
    have hcount := List.nodup_iff_count_le_one.mp h.devices device
    rwa [List.count_eq_countP, List.countP_map] at hcount
  unfold System.inFlight
  rw [List.filter_filterMap, List.length_filterMap_eq_countP]
  refine Nat.le_trans (List.countP_mono_left fun l hl hsome ↦ ?_) hone
  obtain ⟨id, hid⟩ := Option.isSome_iff_exists.mp hsome
  obtain ⟨hflight, hdev⟩ := Option.filter_eq_some_iff.mp hid
  have hheld : id ∈ (s.laneOf l.device).held := by
    rw [System.laneOf_of_mem h.devices hl]
    exact Lane.held_of_command? (Hand.command?_of_inFlight? hflight)
  obtain ⟨e, he, hd⟩ := h.owned hheld
  simp only [he, Option.any_some, beq_iff_eq] at hdev
  exact beq_iff_eq.mpr (hd.symm.trans hdev)

theorem System.isCancelled_iff :
    s.isCancelled id = true ↔ ∃ e, s.entryOf? id = some e ∧ e.record.status = .cancelled := by
  cases he : s.entryOf? id <;> simp [System.isCancelled, he]

/-- A cancelled command stays cancelled, and no further request names it. -/
theorem Custody.moves_cancelled (h : Custody s) (hm : s.Moves settings p t sent)
    (hc : s.isCancelled id = true) : t.isCancelled id = true ∧ attempts id sent = 0 := by
  rw [System.isCancelled_iff] at hc ⊢
  obtain ⟨e, he, hst⟩ := hc
  cases hm with
  | submitted ha hr hn =>
    refine ⟨⟨e, ?_, hst⟩, rfl⟩
    rw [System.entryOf?_accept hn, if_neg, he]
    rintro rfl
    simp [hn] at he
  | unchanged => exact ⟨⟨e, he, hst⟩, rfl⟩
  | @cancelled id' e₀ e' now he₀ ha =>
    obtain ⟨hs, hid, -⟩ := Entry.apply_ok ha
    refine ⟨?_, rfl⟩
    rw [System.entryOf?_setEntry_of (e := e'.interrupt) he₀ (hid.trans (System.id_of_entryOf? he₀))]
    split
    · exact ⟨_, rfl, status_of_cancel hs⟩
    · exact ⟨e, he, hst⟩
  | taken => exact ⟨⟨e, he, hst⟩, rfl⟩
  | @happened l id' e₀ step hl hcmd he₀ hm =>
    rw [System.entryOf?_advance he₀ hm]
    by_cases hi : id = id'
    · subst hi
      obtain rfl : e₀ = e := Option.some.inj (he₀.symm.trans he)
      refine ⟨⟨step.entry, if_pos rfl, hm.stays_cancelled hst⟩, ?_⟩
      rcases hm.sent_cases hcmd with hn | ⟨hi, -⟩
      · rw [hn]
        rfl
      · simp [(h.signalled he).mpr hst] at hi
    · rw [if_neg hi]
      refine ⟨⟨e, he, hst⟩, ?_⟩
      rw [hm.attempts_sent hcmd (System.id_of_entryOf? he₀), if_neg fun hb ↦ hi hb.2]

theorem Run.cancelled_untried (h : Run settings p s labels messages t) (hs : Custody s)
    (hc : s.isCancelled id = true) : attempts id messages = 0 := by
  refine (h.keeps (P := fun u before ↦ Custody u ∧ u.isCancelled id = true ∧
    attempts id before = 0) ⟨hs, hc, rfl⟩ ?_).2.2
  rintro u v before more ⟨hu, hcu, hb⟩ hm
  obtain ⟨hcv, hmore⟩ := hu.moves_cancelled hm hcu
  exact ⟨hu.moves hm, hcv, by rw [attempts_append, hb, hmore]⟩

/-- At most one request for a device is in flight. The commands named by its requests are those that
were accepted for it, in that order, each repeated without interruption as often as it was tried. A
command that was cancelled before its first attempt is not among them, and every other one whose
delivery is finished is, when deliveries are given any time. -/
theorem requests_in_order (h : Run settings p .empty labels messages s) (device : String) :
    (s.inFlight device).length ≤ 1 ∧
    (s.accepted device).Nodup ∧
    sentTo device messages =
      (s.accepted device).flatMap (fun id ↦ List.replicate (attempts id messages) id) ∧
    ∀ id ∈ s.accepted device,
      (CancelledUntried settings p s labels messages id → id ∉ sentTo device messages) ∧
      (p.overall ≠ some 0 → id ∉ (s.laneOf device).held →
        ¬CancelledUntried settings p s labels messages id → id ∈ sentTo device messages) := by
  have hs := h.custody
  have hv := h.served
  have hmem (id : Identifier) : id ∈ sentTo device messages ↔
      id ∈ s.accepted device ∧ 0 < attempts id messages := by
    rw [hv.sent]
    exact mem_blocks
  refine ⟨hs.inFlight_le_one device, hs.nodup_accepted device, hv.sent device, ?_⟩
  intro id hid
  constructor
  · rintro ⟨labels₀, messages₀, t, labels₁, messages₁, h₀, h₁, rfl, rfl, hc, hn⟩ hsent
    have hpos := ((hmem id).mp hsent).2
    rw [attempts_append, hn, h₁.cancelled_untried h₀.custody hc] at hpos
    exact absurd hpos (Nat.lt_irrefl 0)
  · intro hp hheld hnot
    obtain ⟨e, he, hd⟩ := hs.mem_accepted.mp hid
    rw [hmem]
    refine ⟨hid, ?_⟩
    rcases hv.finished hp he (hd.symm ▸ hheld) with ht | hc
    · exact ht
    · by_contra hzero
      exact hnot ⟨labels, messages, s, [], [], h, .nil, by simp, by simp,
        System.isCancelled_iff.mpr ⟨e, he, hc⟩, Nat.eq_zero_of_not_pos hzero⟩

theorem requests_in_order_three : ∃ messages s,
    Run .standard .standard .empty threeCommands messages s ∧
      s.accepted "drone-7" = [⟨1⟩, ⟨2⟩, ⟨3⟩] ∧ sentTo "drone-7" messages = [⟨1⟩, ⟨2⟩, ⟨2⟩] ∧
      (s.inFlight "drone-7").length ≤ 1 ∧
      CancelledUntried .standard .standard s threeCommands messages ⟨3⟩ := by
  obtain ⟨⟨s, messages⟩, hs⟩ : ∃ result,
      System.empty.replay .standard .standard threeCommands = some result :=
    Option.isSome_iff_exists.mp (by decide)
  have hrun := run_of_replay hs
  have hseen : (System.empty.replay .standard .standard threeCommands).map
      (fun result ↦ (result.1.accepted "drone-7", sentTo "drone-7" result.2,
        (result.1.laneOf "drone-7").held)) =
        some ([⟨1⟩, ⟨2⟩, ⟨3⟩], [⟨1⟩, ⟨2⟩, ⟨2⟩], []) := by decide
  rw [hs, Option.map_some, Option.some.injEq, Prod.mk.injEq, Prod.mk.injEq] at hseen
  obtain ⟨haccepted, hsent, hheld⟩ := hseen
  obtain ⟨hflight, -, -, hfinished⟩ := requests_in_order hrun "drone-7"
  refine ⟨messages, s, hrun, haccepted, hsent, hflight, ?_⟩
  by_contra hnot
  have hthird := (hfinished ⟨3⟩ (by simp [haccepted])).2 (by decide) (by simp [hheld]) hnot
  simp [hsent] at hthird

end FleetControl.Dispatch
