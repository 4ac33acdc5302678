import FleetControl.Proofs.Geo.Spell

namespace FleetControl.Geo.Fence

section Told

variable (f : Fence) (entity : String) (threshold : Float) (samples : List Sample)

def InsideAt (i : ℕ) : Prop := ∃ s, samples[i]? = some s ∧ f.contains s.location = true

/-- The seconds from one sample to another are no fewer than the threshold. -/
def Reaches (a i : ℕ) : Prop := ∃ seconds, Lasts samples a i seconds ∧ threshold ≤ seconds

def Reached (a i : ℕ) : Prop := ∃ j, a ≤ j ∧ j < i ∧ Reaches threshold samples a j

/-- What is told of the sample of an index. -/
inductive Told (i : ℕ) : Event → Prop where
  | enter {s} : samples[i]? = some s → f.InsideAt samples i →
      (i = 0 ∨ ¬ f.InsideAt samples (i - 1)) → Told i (f.eventAt entity s .enter none)
  | dwell {s a seconds} : samples[i]? = some s → Spell (f.InsideAt samples) a (i + 1) →
      Reaches threshold samples a i → ¬ Reached threshold samples a i →
      Lasts samples a i seconds → Told i (f.eventAt entity s .dwell (some seconds))
  | exit {s a seconds} : samples[i]? = some s → Spell (f.InsideAt samples) a i →
      ¬ f.InsideAt samples i → Lasts samples a i seconds →
      Told i (f.eventAt entity s .exit (some seconds))

/-- Before the sample of index `i`, this visit goes on. -/
inductive Standing (i : ℕ) : Option Visit → Prop where
  | outside : (i = 0 ∨ ¬ f.InsideAt samples (i - 1)) → Standing i none
  | inside {a entered dwelt} : Spell (f.InsideAt samples) a i → samples[a]? = some entered →
      (dwelt = true ↔ Reached threshold samples a i) →
      Standing i (some ⟨entered, dwelt⟩)

end Told

variable {f : Fence} {entity : String} {threshold : Float} {samples : List Sample} {i : ℕ} {s : Sample}
  {visit : Option Visit} {e : Event}

theorem insideAt_iff (h : samples[i]? = some s) :
    f.InsideAt samples i ↔ f.contains s.location = true := by
  simp [InsideAt, h]

theorem reaches_iff {a : ℕ} {entered : Sample} (ha : samples[a]? = some entered)
    (hi : samples[i]? = some s) :
    Reaches threshold samples a i ↔ threshold ≤ s.time.secondsSince entered.time := by
  constructor
  · rintro ⟨seconds, ⟨first, last, hf, hl, rfl⟩, hle⟩
    rw [Option.some.inj (ha.symm.trans hf), Option.some.inj (hi.symm.trans hl)]
    exact hle
  · exact fun hle ↦ ⟨_, ⟨entered, s, ha, hi, rfl⟩, hle⟩

theorem not_reached_self {a : ℕ} : ¬ Reached threshold samples a a := by
  rintro ⟨j, hj, hj', -⟩
  omega

theorem reached_succ {a : ℕ} (h : a ≤ i) : Reached threshold samples a (i + 1) ↔
    Reached threshold samples a i ∨ Reaches threshold samples a i := by
  constructor
  · rintro ⟨j, hj, hj', hr⟩
    rcases Nat.lt_succ_iff_lt_or_eq.mp hj' with hlt | rfl
    · exact Or.inl ⟨j, hj, hlt, hr⟩
    · exact Or.inr hr
  · rintro (⟨j, hj, hj', hr⟩ | hr)
    · exact ⟨j, hj, Nat.lt_succ_of_lt hj', hr⟩
    · exact ⟨i, h, Nat.lt_succ_self i, hr⟩

section Situations

variable {a : ℕ} {entered : Sample}

theorem told_of_begins (hs : samples[i]? = some s) (hin : f.InsideAt samples i)
    (hb : i = 0 ∨ ¬ f.InsideAt samples (i - 1)) :
    f.Told entity threshold samples i e ↔
      e = f.eventAt entity s .enter none ∨
        threshold ≤ 0.0 ∧ e = f.eventAt entity s .dwell (some 0.0) := by
  constructor
  · intro h
    cases h with
    | enter hs' =>
      rw [Option.some.inj (hs.symm.trans hs')]
      exact Or.inl rfl
    | dwell hs' hspell hreach _ hlasts =>
      obtain rfl := hspell.start_unique (.single hin hb)
      obtain ⟨seconds, hseconds, hle⟩ := hreach
      rw [hseconds.of_same] at hle
      rw [hlasts.of_same, Option.some.inj (hs.symm.trans hs')]
      exact Or.inr ⟨hle, rfl⟩
    | exit _ _ hout => exact absurd hin hout
  · rintro (rfl | ⟨hle, rfl⟩)
    · exact .enter hs hin hb
    · exact .dwell hs (.single hin hb) ⟨_, lasts_same hs, hle⟩ not_reached_self (lasts_same hs)

theorem told_of_goesOn (hs : samples[i]? = some s) (hin : f.InsideAt samples i)
    (hspell : Spell (f.InsideAt samples) a i) (ha : samples[a]? = some entered) :
    f.Told entity threshold samples i e ↔
      threshold ≤ s.time.secondsSince entered.time ∧
        ¬ Reached threshold samples a i ∧
        e = f.eventAt entity s .dwell (some (s.time.secondsSince entered.time)) := by
  have hlasts : Lasts samples a i (s.time.secondsSince entered.time) := ⟨entered, s, ha, hs, rfl⟩
  have hlt := hspell.lt
  constructor
  · intro h
    cases h with
    | enter _ _ hb =>
      rcases hb with rfl | hno
      · omega
      · exact absurd hspell.last hno
    | dwell hs' hspell' hreach hfirst hlasts' =>
      obtain rfl := hspell'.start_unique (hspell.succ hin)
      rw [hlasts'.unique hlasts, ← Option.some.inj (hs.symm.trans hs')]
      exact ⟨(reaches_iff ha hs).mp hreach, hfirst, rfl⟩
    | exit _ _ hout => exact absurd hin hout
  · rintro ⟨hle, hfirst, rfl⟩
    exact .dwell hs (hspell.succ hin) ((reaches_iff ha hs).mpr hle) hfirst hlasts

theorem told_of_ends (hs : samples[i]? = some s) (hout : ¬ f.InsideAt samples i)
    (hspell : Spell (f.InsideAt samples) a i) (ha : samples[a]? = some entered) :
    f.Told entity threshold samples i e ↔
      e = f.eventAt entity s .exit (some (s.time.secondsSince entered.time)) := by
  have hlasts : Lasts samples a i (s.time.secondsSince entered.time) := ⟨entered, s, ha, hs, rfl⟩
  constructor
  · intro h
    cases h with
    | enter _ hin => exact absurd hin hout
    | dwell _ hspell' => exact absurd hspell'.last hout
    | exit hs' hspell' _ hlasts' =>
      obtain rfl := hspell'.start_unique hspell
      rw [hlasts'.unique hlasts, Option.some.inj (hs.symm.trans hs')]
  · rintro rfl
    exact .exit hs hspell hout hlasts

theorem not_told_of_away (hout : ¬ f.InsideAt samples i)
    (hb : i = 0 ∨ ¬ f.InsideAt samples (i - 1)) : ¬ f.Told entity threshold samples i e := by
  intro h
  cases h with
  | enter _ hin => exact hout hin
  | dwell _ hspell => exact hout hspell.last
  | exit _ hspell =>
    have hlt := hspell.lt
    rcases hb with rfl | hno
    · omega
    · exact hno hspell.last

variable {dwelt dwelt' : Bool}

theorem standing_of_begins (hs : samples[i]? = some s) (hin : f.InsideAt samples i)
    (hb : i = 0 ∨ ¬ f.InsideAt samples (i - 1)) (hd : dwelt = true ↔ threshold ≤ 0.0) :
    f.Standing threshold samples (i + 1) (some ⟨s, dwelt⟩) := by
  refine .inside (.single hin hb) hs ?_
  rw [hd, reached_succ (Nat.le_refl i), reaches_iff hs hs, Instant.secondsSince_self,
    or_iff_right not_reached_self]

theorem standing_of_goesOn (hs : samples[i]? = some s) (hin : f.InsideAt samples i)
    (hspell : Spell (f.InsideAt samples) a i) (ha : samples[a]? = some entered)
    (hdwelt : dwelt = true ↔ Reached threshold samples a i)
    (hd : dwelt' = true ↔ dwelt = true ∨ threshold ≤ s.time.secondsSince entered.time) :
    f.Standing threshold samples (i + 1) (some ⟨entered, dwelt'⟩) := by
  refine .inside (hspell.succ hin) ha ?_
  rw [hd, reached_succ (Nat.le_of_lt hspell.lt), hdwelt, reaches_iff ha hs]

end Situations

/-- The events at one sample: what is told of it, an enter event before a dwell event. -/
structure Tells (f : Fence) (entity : String) (threshold : Float) (samples : List Sample) (i : ℕ)
    (events : List Event) : Prop where
  told (e : Event) : e ∈ events ↔ f.Told entity threshold samples i e
  order : events.Pairwise fun e e' ↦ e.kind = .enter ∧ e'.kind = .dwell

theorem tells_nil (h : ∀ e, ¬ f.Told entity threshold samples i e) :
    f.Tells entity threshold samples i [] where
  told e := by simp [h e]
  order := .nil

theorem tells_singleton {e : Event} (h : ∀ e', f.Told entity threshold samples i e' ↔ e' = e) :
    f.Tells entity threshold samples i [e] where
  told e' := by simp [h e']
  order := List.pairwise_singleton _ _

theorem eventsAt_spec (hs : samples[i]? = some s)
    (hv : f.Standing threshold samples i visit) :
    f.Tells entity threshold samples i (f.eventsAt entity threshold visit s).1 ∧
      f.Standing threshold samples (i + 1) (f.eventsAt entity threshold visit s).2 := by
  have hin := insideAt_iff (f := f) hs
  cases hc : f.contains s.location with
  | false =>
    have hout : ¬ f.InsideAt samples i := by simp [hin, hc]
    have hafter : f.Standing threshold samples (i + 1) none := .outside (Or.inr hout)
    cases hv with
    | outside hb =>
      simp only [eventsAt, hc]
      exact ⟨tells_nil fun e ↦ not_told_of_away hout hb, hafter⟩
    | inside hspell ha =>
      simp only [eventsAt, hc]
      exact ⟨tells_singleton fun e ↦ told_of_ends hs hout hspell ha, hafter⟩
  | true =>
    rw [hc, eq_self_iff_true, iff_true] at hin
    cases hv with
    | outside hb =>
      have htold (e : Event) : f.Told entity threshold samples i e ↔ _ := told_of_begins hs hin hb
      simp only [eventsAt, hc]
      split
      case isTrue hle =>
        refine ⟨⟨fun e ↦ ?_, ?_⟩, standing_of_begins hs hin hb (by simp [hle])⟩
        · simp [htold e, hle]
        · simp [eventAt]
      case isFalse hle =>
        refine ⟨tells_singleton fun e ↦ ?_, standing_of_begins hs hin hb (by simp [hle])⟩
        simp [htold e, hle]
    | @inside a entered dwelt hspell ha hdwelt =>
      have htold (e : Event) : f.Told entity threshold samples i e ↔ _ :=
        told_of_goesOn hs hin hspell ha
      cases dwelt with
      | true =>
        simp only [eventsAt, hc]
        refine ⟨tells_nil fun e he ↦ ?_, standing_of_goesOn hs hin hspell ha hdwelt (by simp)⟩
        exact ((htold e).mp he).2.1 (hdwelt.mp rfl)
      | false =>
        have hnot : ¬ Reached threshold samples a i := by simp [← hdwelt]
        simp only [eventsAt, hc]
        split
        case isTrue hle =>
          refine ⟨tells_singleton fun e ↦ ?_,
            standing_of_goesOn hs hin hspell ha hdwelt (by simp [hle])⟩
          rw [htold e, and_iff_right hle, and_iff_right hnot]
        case isFalse hle =>
          refine ⟨tells_nil fun e he ↦ ?_, standing_of_goesOn hs hin hspell ha hdwelt (by simp [hle])⟩
          exact hle ((htold e).mp he).1

def Before (x y : ℕ × Event) : Prop :=
  x.1 < y.1 ∨ x.1 = y.1 ∧ x.2.kind = .enter ∧ y.2.kind = .dwell

theorem Told.lt_length (h : f.Told entity threshold samples i e) : i < samples.length := by
  cases h with
  | enter hs => exact (List.getElem?_eq_some_iff.mp hs).1
  | dwell hs => exact (List.getElem?_eq_some_iff.mp hs).1
  | exit hs => exact (List.getElem?_eq_some_iff.mp hs).1

/-- The samples from index `i` on: in order, all that is told of them and nothing else. -/
theorem eventsFrom_spec {rest : List Sample} (hrest : samples.drop i = rest)
    (hv : f.Standing threshold samples i visit) :
    ∃ told : List (ℕ × Event), f.eventsFrom entity threshold visit rest = told.map Prod.snd ∧
      told.Pairwise Before ∧
        ∀ k e, (k, e) ∈ told ↔ i ≤ k ∧ f.Told entity threshold samples k e := by
  induction rest generalizing i visit with
  | nil =>
    refine ⟨[], rfl, .nil, fun k e ↦ ⟨fun h ↦ (by cases h), fun ⟨hk, h⟩ ↦ ?_⟩⟩
    have hlt := h.lt_length
    have hle := List.drop_eq_nil_iff.mp hrest
    omega
  | cons s rest ih =>
    obtain ⟨hs, hnext⟩ := of_drop_eq_cons hrest
    obtain ⟨htells, hafter⟩ : f.Tells entity threshold samples i _ ∧ _ := eventsAt_spec hs hv
    obtain ⟨told, hevents, horder, htold⟩ := ih hnext hafter
    refine ⟨(f.eventsAt entity threshold visit s).1.map (i, ·) ++ told, ?_, ?_, fun k e ↦ ?_⟩
    · rw [eventsFrom, List.map_append, ← hevents, List.map_map]
      simp [Function.comp_def]
    · refine List.pairwise_append.mpr ⟨?_, horder, fun x hx y hy ↦ Or.inl ?_⟩
      · exact List.pairwise_map.mpr (htells.order.imp fun h ↦ Or.inr ⟨rfl, h⟩)
      · obtain ⟨e, -, rfl⟩ := List.mem_map.mp hx
        exact ((htold y.1 y.2).mp hy).1
    · rw [List.mem_append, htold]
      constructor
      · rintro (h | ⟨hk, h⟩)
        · obtain ⟨e', he', heq⟩ := List.mem_map.mp h
          cases heq
          exact ⟨Nat.le_refl i, (htells.told e).mp he'⟩
        · exact ⟨Nat.le_of_lt hk, h⟩
      · rintro ⟨hk, h⟩
        rcases Nat.eq_or_lt_of_le hk with rfl | hlt
        · exact Or.inl (List.mem_map_of_mem ((htells.told e).mpr h))
        · exact Or.inr ⟨hlt, h⟩

section Reports

variable (f : Fence) (entity : String) (threshold : Float) (samples : List Sample)

/-- A whole visit: it goes on from `a` to before `b`, and not at `b`. -/
def WholeVisit (a b : ℕ) : Prop := Spell (f.InsideAt samples) a b ∧ ¬ f.InsideAt samples b

def isDwellIn (a b : ℕ) (x : ℕ × Event) : Bool :=
  a ≤ x.1 && x.1 < b && x.2.kind = .dwell

/-- The events with the indices of their samples: one at the beginning of each visit, one at its end,
and one where it has gone on for as long as the threshold, if ever it has. -/
structure Reports (told : List (ℕ × Event)) : Prop where
  order : told.Pairwise Before
  mem_iff (i : ℕ) (e : Event) : (i, e) ∈ told ↔ f.Told entity threshold samples i e
  enters (i : ℕ) : (∃ e, (i, e) ∈ told ∧ e.kind = .enter) ↔
    f.InsideAt samples i ∧ (i = 0 ∨ ¬ f.InsideAt samples (i - 1))
  exits (i : ℕ) : (∃ e, (i, e) ∈ told ∧ e.kind = .exit) ↔
    i < samples.length ∧ ¬ f.InsideAt samples i ∧ 0 < i ∧ f.InsideAt samples (i - 1)
  dwells {a b : ℕ} : f.WholeVisit samples a b →
    (∃ i, a ≤ i ∧ i < b ∧ Reaches threshold samples a i) → told.countP (isDwellIn a b) = 1
  passes {a b : ℕ} : f.WholeVisit samples a b →
    (¬ ∃ i, a ≤ i ∧ i < b ∧ Reaches threshold samples a i) → told.countP (isDwellIn a b) = 0
  dwells_at_once {a b : ℕ} : f.WholeVisit samples a b → threshold ≤ 0.0 → ∃ s,
    samples[a]? = some s ∧ (a, f.eventAt entity s .enter none) ∈ told ∧
      (a, f.eventAt entity s .dwell (some 0.0)) ∈ told

end Reports

theorem told_enter_iff : (∃ e, f.Told entity threshold samples i e ∧ e.kind = .enter) ↔
    f.InsideAt samples i ∧ (i = 0 ∨ ¬ f.InsideAt samples (i - 1)) := by
  constructor
  · rintro ⟨e, h, hkind⟩
    cases h with
    | enter _ hin hb => exact ⟨hin, hb⟩
    | dwell => cases hkind
    | exit => cases hkind
  · rintro ⟨hin, hb⟩
    have ⟨s, hs, _⟩ := hin
    exact ⟨_, .enter hs hin hb, rfl⟩

theorem told_exit_iff : (∃ e, f.Told entity threshold samples i e ∧ e.kind = .exit) ↔
    i < samples.length ∧ ¬ f.InsideAt samples i ∧ 0 < i ∧ f.InsideAt samples (i - 1) := by
  constructor
  · rintro ⟨e, h, hkind⟩
    have hlt := h.lt_length
    cases h with
    | enter => cases hkind
    | dwell => cases hkind
    | exit _ hspell hout => exact ⟨hlt, hout, Nat.zero_lt_of_lt hspell.lt, hspell.last⟩
  · rintro ⟨hlt, hout, hpos, hin⟩
    obtain ⟨a, hspell⟩ := Spell.exists_of_mem hin
    rw [Nat.sub_add_cancel hpos] at hspell
    obtain ⟨first, hfirst, -⟩ := hspell.holds a (Nat.le_refl a) hspell.lt
    have hs := List.getElem?_eq_getElem hlt
    exact ⟨_, .exit hs hspell hout ⟨first, _, hfirst, hs, rfl⟩, rfl⟩

theorem told_dwell_iff {a b : ℕ} (h : Spell (f.InsideAt samples) a b) (ha : a ≤ i) (hb : i < b) :
    (∃ e, f.Told entity threshold samples i e ∧ e.kind = .dwell) ↔
      Reaches threshold samples a i ∧ ¬ Reached threshold samples a i := by
  have hspell : Spell (f.InsideAt samples) a (i + 1) :=
    ⟨Nat.lt_succ_of_le ha, fun j hj hj' ↦ h.holds j hj (by omega), h.begins⟩
  constructor
  · rintro ⟨e, h, hkind⟩
    cases h with
    | enter => cases hkind
    | dwell _ hspell' hreach hnot =>
      obtain rfl := hspell'.start_unique hspell
      exact ⟨hreach, hnot⟩
    | exit => cases hkind
  · rintro ⟨hreach, hnot⟩
    have ⟨seconds, ⟨first, s, hfirst, hs, hseconds⟩, _⟩ := hreach
    exact ⟨_, .dwell hs hspell hreach hnot ⟨first, s, hfirst, hs, hseconds⟩, rfl⟩

theorem exists_first {a : ℕ} (ha : a ≤ i) (h : Reaches threshold samples a i) :
    ∃ j, a ≤ j ∧ j ≤ i ∧ Reaches threshold samples a j ∧ ¬ Reached threshold samples a j := by
  induction i using Nat.strongRecOn with
  | ind i ih =>
    by_cases hr : Reached threshold samples a i
    · obtain ⟨j, hj, hj', hreach⟩ := hr
      obtain ⟨k, hk, hk', hfirst⟩ := ih j hj' hj hreach
      exact ⟨k, hk, by omega, hfirst⟩
    · exact ⟨i, ha, Nat.le_refl i, h, hr⟩

variable {told : List (ℕ × Event)}

theorem isDwellIn_iff {a b : ℕ} {x : ℕ × Event} :
    isDwellIn a b x = true ↔ a ≤ x.1 ∧ x.1 < b ∧ x.2.kind = .dwell := by
  simp [isDwellIn, and_assoc]

section Counting

variable {told : List (ℕ × Event)} {a b : ℕ}
  (htold : ∀ i e, (i, e) ∈ told ↔ f.Told entity threshold samples i e)
include htold

theorem exists_isDwellIn_iff (hspell : Spell (f.InsideAt samples) a b) :
    (∃ x ∈ told, isDwellIn a b x = true) ↔ ∃ i, a ≤ i ∧ i < b ∧ Reaches threshold samples a i := by
  constructor
  · rintro ⟨⟨i, e⟩, hx, hd⟩
    obtain ⟨ha, hb, hkind⟩ := isDwellIn_iff.mp hd
    have hfirst := (told_dwell_iff hspell ha hb).mp ⟨e, (htold i e).mp hx, hkind⟩
    exact ⟨i, ha, hb, hfirst.1⟩
  · rintro ⟨i, ha, hb, hreach⟩
    obtain ⟨j, hj, hji, hfirst⟩ := exists_first ha hreach
    have hjb : j < b := Nat.lt_of_le_of_lt hji hb
    have hdwell : (∃ e, f.Told entity threshold samples j e ∧ e.kind = .dwell) ↔ _ :=
      told_dwell_iff hspell hj hjb
    obtain ⟨e, he, hkind⟩ := hdwell.mpr hfirst
    exact ⟨(j, e), (htold j e).mpr he, isDwellIn_iff.mpr ⟨hj, hjb, hkind⟩⟩

theorem countP_isDwellIn_le (horder : told.Pairwise Before)
    (hspell : Spell (f.InsideAt samples) a b) : told.countP (isDwellIn a b) ≤ 1 := by
  have hnone : (told.filter (isDwellIn a b)).Pairwise fun _ _ ↦ False := by
    refine (horder.filter _).imp_of_mem fun {x y} hx hy hbefore ↦ ?_
    obtain ⟨hx, hdx⟩ := List.mem_filter.mp hx
    obtain ⟨hy, hdy⟩ := List.mem_filter.mp hy
    obtain ⟨hax, hbx, hkx⟩ := isDwellIn_iff.mp hdx
    obtain ⟨hay, hby, hky⟩ := isDwellIn_iff.mp hdy
    have hreach := (told_dwell_iff hspell hax hbx).mp ⟨x.2, (htold x.1 x.2).mp hx, hkx⟩
    have hfirst := (told_dwell_iff hspell hay hby).mp ⟨y.2, (htold y.1 y.2).mp hy, hky⟩
    rcases hbefore with hlt | ⟨-, henter, -⟩
    · exact hfirst.2 ⟨x.1, hax, hlt, hreach.1⟩
    · rw [hkx] at henter
      cases henter
  rw [List.countP_eq_length_filter]
  cases hl : told.filter (isDwellIn a b) with
  | nil => exact Nat.zero_le 1
  | cons x l =>
    cases l with
    | nil => exact Nat.le_refl 1
    | cons y l =>
      rw [hl, List.pairwise_cons] at hnone
      exact (hnone.1 y List.mem_cons_self).elim

theorem reports_of_told (horder : told.Pairwise Before) :
    f.Reports entity threshold samples told where
  order := horder
  mem_iff := htold
  enters i := by simp only [htold, told_enter_iff]
  exits i := by simp only [htold, told_exit_iff]
  dwells := by
    rintro a b ⟨hspell, -⟩ hreach
    have hpos := List.countP_pos_iff.mpr ((exists_isDwellIn_iff htold hspell).mpr hreach)
    exact Nat.le_antisymm (countP_isDwellIn_le htold horder hspell) hpos
  passes := by
    rintro a b ⟨hspell, -⟩ hno
    refine List.countP_eq_zero.mpr fun x hx hd ↦ hno ?_
    exact (exists_isDwellIn_iff htold hspell).mp ⟨x, hx, hd⟩
  dwells_at_once := by
    rintro a b ⟨hspell, -⟩ hle
    have hin := hspell.holds a (Nat.le_refl a) hspell.lt
    have ⟨s, hs, _⟩ := hin
    have hbegins (e : Event) : f.Told entity threshold samples a e ↔ _ :=
      told_of_begins hs hin hspell.begins
    refine ⟨s, hs, (htold a _).mpr ((hbegins _).mpr (Or.inl rfl)), ?_⟩
    exact (htold a _).mpr ((hbegins _).mpr (Or.inr ⟨hle, rfl⟩))

end Counting

/-- The events at a fence are the visits; a fence that is not active has none. -/
theorem events_of_visits (f : Fence) (entity : String) (threshold : Float) (samples : List Sample) :
    ∃ told : List (ℕ × Event), f.events entity threshold samples = told.map Prod.snd ∧
      (f.active = false → told = []) ∧
      (f.active = true → f.Reports entity threshold samples told) := by
  cases hactive : f.active with
  | false => exact ⟨[], by simp [events, hactive], fun _ ↦ rfl, fun h ↦ (by cases h)⟩
  | true =>
    have hstart : f.Standing threshold samples 0 none := .outside (Or.inl rfl)
    obtain ⟨told, hevents, horder, htold⟩ : ∃ told : List (ℕ × Event),
        f.eventsFrom entity threshold none samples = told.map Prod.snd ∧ told.Pairwise Before ∧
          ∀ i e, (i, e) ∈ told ↔ 0 ≤ i ∧ f.Told entity threshold samples i e :=
      eventsFrom_spec List.drop_zero hstart
    refine ⟨told, by simp [events, hactive, hevents], fun h ↦ (by cases h), fun _ ↦ ?_⟩
    exact reports_of_told (fun i e ↦ by simp [htold]) horder

example :
    let pad : Fence :=
      ⟨"pad", "pad", .polygon [.of 0.0 0.0, .of 1.0 0.0, .of 1.0 1.0, .of 0.0 1.0], true, default, default⟩
    let sample (longitude : Float) (second : ℕ) : Sample := .of (.of longitude 0.5) ⟨0, second, 0⟩
    (pad.events "uav" 30.0
        [sample 2.0 0, sample 0.5 10, sample 0.6 39, sample 0.7 45, sample 2.0 50]).map
        (fun e ↦ (e.kind, e.inside)) =
      [(.enter, none), (.dwell, some 35.0), (.exit, some 40.0)] := by
  decide +kernel

end FleetControl.Geo.Fence
