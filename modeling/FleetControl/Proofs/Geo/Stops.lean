import FleetControl.Geo.Motion
import FleetControl.Proofs.Geo.Spell
import Mathlib.Data.Nat.PSub

namespace FleetControl.Geo

section Standing

variable (threshold minimum : Float) (samples : List Sample)

/-- The entity stands still at the sample of that index; without a speed it counts as zero. -/
def StandsAt (i : ℕ) : Prop := ∃ s, samples[i]? = some s ∧ s.speed.getD 0.0 ≤ threshold

def Standstill (a b : ℕ) : Prop :=
  Spell (StandsAt threshold samples) a (b + 1) ∧
    (b + 1 = samples.length ∨ ¬ StandsAt threshold samples (b + 1))

def LongStandstill (a b : ℕ) : Prop :=
  Standstill threshold samples a b ∧ ∃ seconds, Lasts samples a b seconds ∧ minimum ≤ seconds

structure Stop.Sound (stop : Stop) : Prop where
  standstill : Standstill threshold samples stop.startIndex stop.endIndex
  lasts : Lasts samples stop.startIndex stop.endIndex stop.seconds
  long : minimum ≤ stop.seconds
  first : ∃ s, samples[stop.startIndex]? = some s ∧
    stop.startTime = s.time ∧ stop.location = s.location
  last : ∃ s, samples[stop.endIndex]? = some s ∧ stop.endTime = s.time

/-- The stretch that is open before the sample of index `i`. -/
inductive Open (i : ℕ) : Option Stretch → Prop where
  | away : (i = 0 ∨ ¬ StandsAt threshold samples (i - 1)) → Open i none
  | standing {o : Stretch} : Spell (StandsAt threshold samples) o.startIndex i →
      o.endIndex + 1 = i → samples[o.startIndex]? = some o.first →
      samples[o.endIndex]? = some o.last → Open i (some o)

/-- The stop between two indices if it is long enough; nothing comes of an index out of bounds. -/
def stopBetween (a b : ℕ) : Option (List Stop) := do
  let first ← samples[a]?
  let last ← samples[b]?
  some (Stretch.close minimum ⟨a, b, first, last⟩)

def stopsByIndex (i : ℕ) : Option ℕ → List Sample → Option (List Stop)
  | none, [] => some []
  | some start, [] => do stopBetween minimum samples start (← samples.length.ppred)
  | none, s :: rest =>
    stopsByIndex (i + 1) (if s.isStopped threshold then some i else none) rest
  | some start, s :: rest =>
    if s.isStopped threshold then stopsByIndex (i + 1) (some start) rest
    else do
      let closed ← stopBetween minimum samples start (← i.ppred)
      let later ← stopsByIndex (i + 1) none rest
      some (closed ++ later)

end Standing

variable {threshold minimum : Float} {samples rest : List Sample} {i : ℕ} {s : Sample}
  {o : Stretch} {open? : Option Stretch} {stop stop' : Stop}

theorem isStopped_iff (h : samples[i]? = some s) :
    s.isStopped threshold = true ↔ StandsAt threshold samples i := by
  simp [Sample.isStopped, StandsAt, h]

theorem StandsAt.lt_length (h : StandsAt threshold samples i) : i < samples.length := by
  obtain ⟨s, hs, -⟩ := h
  exact (List.getElem?_eq_some_iff.mp hs).1

namespace Stop

def Before (stop stop' : Stop) : Prop :=
  stop.startIndex ≤ stop.endIndex ∧ stop.endIndex < stop'.startIndex ∧
    stop'.startIndex ≤ stop'.endIndex

theorem Sound.le (h : stop.Sound threshold minimum samples) : stop.startIndex ≤ stop.endIndex :=
  Nat.le_of_lt_succ h.standstill.1.lt

theorem Sound.stands_last (h : stop.Sound threshold minimum samples) :
    StandsAt threshold samples stop.endIndex := h.standstill.1.last

theorem Sound.lt_length (h : stop.Sound threshold minimum samples) :
    stop.endIndex < samples.length := h.stands_last.lt_length

theorem Sound.eq_of_endIndex (h : stop.Sound threshold minimum samples)
    (h' : stop'.Sound threshold minimum samples) (hend : stop.endIndex = stop'.endIndex) :
    stop = stop' := by
  have hspell := h'.standstill.1
  rw [← hend] at hspell
  have hstart := h.standstill.1.start_unique hspell
  have hlasts := h'.lasts
  rw [← hstart, ← hend] at hlasts
  have hseconds := h.lasts.unique hlasts
  obtain ⟨s, hs, htime, hplace⟩ := h.first
  obtain ⟨s', hs', htime', hplace'⟩ := h'.first
  obtain ⟨t, ht, hfinish⟩ := h.last
  obtain ⟨t', ht', hfinish'⟩ := h'.last
  rw [← hstart, hs, Option.some.injEq] at hs'
  rw [← hend, ht, Option.some.injEq] at ht'
  subst hs' ht'
  cases stop
  cases stop'
  simp_all

end Stop

theorem mem_close_iff (h : Open threshold samples i (some o))
    (hends : i = samples.length ∨ ¬ StandsAt threshold samples i) :
    stop ∈ o.close minimum ↔ stop.Sound threshold minimum samples ∧ stop.endIndex + 1 = i := by
  cases h with
  | standing hspell hi hfirst hlast =>
    subst hi
    have hlasts : Lasts samples o.startIndex o.endIndex (o.last.time.secondsSince o.first.time) :=
      ⟨_, _, hfirst, hlast, rfl⟩
    constructor
    · intro hmem
      unfold Stretch.close at hmem
      simp only at hmem
      split at hmem
      case isTrue hlong =>
        obtain rfl := List.mem_singleton.mp hmem
        exact ⟨⟨⟨hspell, hends⟩, hlasts, hlong, ⟨_, hfirst, rfl, rfl⟩, ⟨_, hlast, rfl⟩⟩, rfl⟩
      case isFalse => cases hmem
    · rintro ⟨hsound, hend⟩
      have hend' : stop.endIndex = o.endIndex := Nat.succ_injective hend
      have hspell' := hsound.standstill.1
      rw [hend'] at hspell'
      have hlasts' := hsound.lasts
      rw [hspell'.start_unique hspell, hend'] at hlasts'
      have hlong : minimum ≤ o.last.time.secondsSince o.first.time := by
        rw [← hlasts'.unique hlasts]
        exact hsound.long
      have hclose : o.close minimum = [⟨o.startIndex, o.endIndex, o.first.time, o.last.time,
          o.last.time.secondsSince o.first.time, o.first.location⟩] := by
        simp [Stretch.close, hlong]
      rw [hclose, List.mem_singleton]
      refine hsound.eq_of_endIndex ?_ hend'
      exact ⟨⟨hspell, hends⟩, hlasts, hlong, ⟨_, hfirst, rfl, rfl⟩, ⟨_, hlast, rfl⟩⟩

theorem pairwise_close : (o.close minimum).Pairwise fun s t ↦ s.endIndex < t.startIndex := by
  unfold Stretch.close
  simp only
  split
  · exact List.pairwise_singleton _ _
  · exact .nil

theorem open_of_begins (hs : samples[i]? = some s) (hstands : StandsAt threshold samples i)
    (h : Open threshold samples i none) : Open threshold samples (i + 1) (some ⟨i, i, s, s⟩) := by
  cases h with
  | away hb => exact .standing (.single hstands hb) rfl hs hs

theorem open_of_goesOn (hs : samples[i]? = some s) (hstands : StandsAt threshold samples i)
    (h : Open threshold samples i (some o)) :
    Open threshold samples (i + 1) (some { o with endIndex := i, last := s }) := by
  cases h with
  | standing hspell _ hfirst => exact .standing (hspell.succ hstands) rfl hfirst hs

theorem open_of_moves (h : ¬ StandsAt threshold samples i) :
    Open threshold samples (i + 1) none := .away (Or.inr h)

theorem eq_length_of_open (h : Open threshold samples i (some o)) (hlength : samples.length ≤ i) :
    i = samples.length := by
  cases h with
  | standing hspell =>
    have hlast := hspell.last.lt_length
    have hpos := hspell.lt
    omega

theorem ne_of_away (h : Open threshold samples i none)
    (hsound : stop.Sound threshold minimum samples) : stop.endIndex + 1 ≠ i := by
  rintro rfl
  cases h with
  | away hb =>
    rcases hb with hzero | hno
    · omega
    · exact hno hsound.stands_last

theorem ne_of_stands (hstands : StandsAt threshold samples i)
    (hsound : stop.Sound threshold minimum samples) : stop.endIndex + 1 ≠ i := by
  rintro rfl
  rcases hsound.standstill.2 with hlength | hno
  · have := hstands.lt_length
    omega
  · exact hno hstands

/-- The scan from index `i` on gives the stops that end there or later and, if a stretch is open, the
one that ends with it. -/
theorem stopsFrom_spec (hrest : samples.drop i = rest) (h : Open threshold samples i open?) :
    (∀ stop, stop ∈ stopsFrom threshold minimum i open? rest ↔
      stop.Sound threshold minimum samples ∧ i ≤ stop.endIndex + 1) ∧
    (stopsFrom threshold minimum i open? rest).Pairwise fun s t ↦ s.endIndex < t.startIndex := by
  induction rest generalizing i open? with
  | nil =>
    have hlength : samples.length ≤ i := List.drop_eq_nil_iff.mp hrest
    have hlast {stop : Stop} (hsound : stop.Sound threshold minimum samples) :
        i ≤ stop.endIndex + 1 ↔ stop.endIndex + 1 = i := by
      have := hsound.lt_length
      omega
    cases open? with
    | none =>
      refine ⟨fun stop ↦ ⟨fun hmem ↦ (by cases hmem), fun ⟨hsound, hle⟩ ↦ ?_⟩, .nil⟩
      exact absurd ((hlast hsound).mp hle) (ne_of_away h hsound)
    | some o =>
      have hi : i = samples.length := eq_length_of_open h hlength
      refine ⟨fun stop ↦ ?_, pairwise_close⟩
      rw [stopsFrom, mem_close_iff h (Or.inl hi)]
      exact and_congr_right fun hsound ↦ (hlast hsound).symm
  | cons s rest ih =>
    obtain ⟨hs, hnext⟩ := of_drop_eq_cons hrest
    have hstopped : s.isStopped threshold = true ↔ StandsAt threshold samples i := isStopped_iff hs
    -- From a sample at which nothing ends, the scan goes on with the same stops to come.
    have hlater (hne : ∀ stop : Stop, stop.Sound threshold minimum samples → stop.endIndex + 1 ≠ i)
        (stop : Stop) : stop.Sound threshold minimum samples ∧ i + 1 ≤ stop.endIndex + 1 ↔
          stop.Sound threshold minimum samples ∧ i ≤ stop.endIndex + 1 := by
      refine and_congr_right fun hsound ↦ ?_
      have := hne stop hsound
      omega
    by_cases hstands : StandsAt threshold samples i
    · have hne (stop : Stop) (hsound : stop.Sound threshold minimum samples) :=
        ne_of_stands hstands hsound
      cases open? with
      | none =>
        have hih := ih hnext (open_of_begins hs hstands h)
        simp only [stopsFrom, hstopped.mpr hstands, if_true]
        exact ⟨fun stop ↦ (hih.1 stop).trans (hlater hne stop), hih.2⟩
      | some o =>
        have hih := ih hnext (open_of_goesOn hs hstands h)
        simp only [stopsFrom, hstopped.mpr hstands, if_true]
        exact ⟨fun stop ↦ (hih.1 stop).trans (hlater hne stop), hih.2⟩
    · have hih := ih hnext (open_of_moves hstands)
      have hmoves : ¬ s.isStopped threshold = true := mt hstopped.mp hstands
      cases open? with
      | none =>
        simp only [stopsFrom, if_neg hmoves]
        exact ⟨fun stop ↦ (hih.1 stop).trans (hlater (fun _ ↦ ne_of_away h) stop), hih.2⟩
      | some o =>
        have hclose (stop : Stop) : stop ∈ o.close minimum ↔
            stop.Sound threshold minimum samples ∧ stop.endIndex + 1 = i :=
          mem_close_iff h (Or.inr hstands)
        simp only [stopsFrom, if_neg hmoves]
        constructor
        · intro stop
          rw [List.mem_append, hclose, hih.1, ← and_or_left]
          refine and_congr_right fun _ ↦ ?_
          omega
        · refine List.pairwise_append.mpr ⟨pairwise_close, hih.2, fun stop hstop stop' hstop' ↦ ?_⟩
          obtain ⟨hsound, hend⟩ := (hclose stop).mp hstop
          obtain ⟨hsound', hle⟩ := (hih.1 stop').mp hstop'
          -- The later stop does not reach back over the sample at which the entity moves.
          by_contra hlt
          exact hstands (hsound'.standstill.1.holds i (by omega) (by omega))

theorem stopBetween_eq (h : Open threshold samples i (some o)) :
    stopBetween minimum samples o.startIndex o.endIndex = some (o.close minimum) := by
  cases h with
  | standing _ _ hfirst hlast => simp [stopBetween, hfirst, hlast]

theorem ppred_of_open (h : Open threshold samples i (some o)) : i.ppred = some o.endIndex := by
  cases h with
  | standing _ hi => rw [← hi, Nat.ppred_succ]

/-- With indices alone the scan finds the same stops, and no index is out of bounds. -/
theorem stopsByIndex_eq (hrest : samples.drop i = rest) (h : Open threshold samples i open?) :
    stopsByIndex threshold minimum samples i (open?.map Stretch.startIndex) rest =
      some (stopsFrom threshold minimum i open? rest) := by
  induction rest generalizing i open? with
  | nil =>
    cases open? with
    | none => rfl
    | some o =>
      have hlength : samples.length ≤ i := List.drop_eq_nil_iff.mp hrest
      have hi : samples.length = i := (eq_length_of_open h hlength).symm
      simp [stopsByIndex, stopsFrom, hi, ppred_of_open h, stopBetween_eq h]
  | cons s rest ih =>
    obtain ⟨hs, hnext⟩ := of_drop_eq_cons hrest
    have hstopped : s.isStopped threshold = true ↔ StandsAt threshold samples i := isStopped_iff hs
    by_cases hstands : StandsAt threshold samples i
    · cases open? with
      | none =>
        have hih := ih hnext (open_of_begins hs hstands h)
        simpa [stopsByIndex, stopsFrom, hstopped.mpr hstands] using hih
      | some o =>
        have hih := ih hnext (open_of_goesOn hs hstands h)
        simpa [stopsByIndex, stopsFrom, hstopped.mpr hstands] using hih
    · have hih := ih hnext (open_of_moves hstands)
      have hmoves : ¬ s.isStopped threshold = true := mt hstopped.mp hstands
      cases open? with
      | none => simpa [stopsByIndex, stopsFrom, hmoves] using hih
      | some o =>
        rw [Option.map_none] at hih
        simp [stopsByIndex, stopsFrom, hmoves, ppred_of_open h, stopBetween_eq h, hih]

theorem exists_sound_iff {a b : ℕ} :
    (∃ stop : Stop, stop.Sound threshold minimum samples ∧ stop.startIndex = a ∧ stop.endIndex = b) ↔
      LongStandstill threshold minimum samples a b := by
  constructor
  · rintro ⟨stop, h, rfl, rfl⟩
    exact ⟨h.standstill, _, h.lasts, h.long⟩
  · rintro ⟨hstandstill, seconds, hlasts, hlong⟩
    have ⟨first, last, hfirst, hlast, _⟩ := hlasts
    exact ⟨⟨a, b, first.time, last.time, seconds, first.location⟩,
      ⟨hstandstill, hlasts, hlong, ⟨_, hfirst, rfl, rfl⟩, ⟨_, hlast, rfl⟩⟩, rfl, rfl⟩

/-- The stops are the standstills that last long enough, one after the other, and they can be found by
index. -/
theorem stops_of_standstills (threshold minimum : Float) (samples : List Sample) :
    stopsByIndex threshold minimum samples 0 none samples =
        some (stops threshold minimum samples) ∧
      (∀ stop, stop ∈ stops threshold minimum samples ↔ stop.Sound threshold minimum samples) ∧
      (∀ a b, (∃ stop ∈ stops threshold minimum samples, stop.startIndex = a ∧ stop.endIndex = b) ↔
        LongStandstill threshold minimum samples a b) ∧
      (stops threshold minimum samples).Pairwise Stop.Before ∧
      stopStarts threshold minimum samples =
        (stops threshold minimum samples).map Stop.startIndex ∧
      (∀ a, a ∈ stopStarts threshold minimum samples ↔
        ∃ b, LongStandstill threshold minimum samples a b) ∧
      (stopStarts threshold minimum samples).Pairwise (· < ·) := by
  have hopen : Open threshold samples 0 none := .away (Or.inl rfl)
  obtain ⟨hfrom, horder⟩ : (∀ stop, stop ∈ stops threshold minimum samples ↔ _) ∧ _ :=
    stopsFrom_spec List.drop_zero hopen
  have hmem (stop : Stop) :
      stop ∈ stops threshold minimum samples ↔ stop.Sound threshold minimum samples :=
    (hfrom stop).trans (and_iff_left (Nat.zero_le _))
  have hends (a b : ℕ) :
      (∃ stop ∈ stops threshold minimum samples, stop.startIndex = a ∧ stop.endIndex = b) ↔
        LongStandstill threshold minimum samples a b := by
    simp only [hmem, exists_sound_iff]
  have hbefore : (stops threshold minimum samples).Pairwise Stop.Before :=
    horder.imp_of_mem fun hstop hstop' hlt ↦
      ⟨((hmem _).mp hstop).le, hlt, ((hmem _).mp hstop').le⟩
  refine ⟨stopsByIndex_eq List.drop_zero hopen, hmem, hends, hbefore, rfl, fun a ↦ ?_, ?_⟩
  · simp only [stopStarts, List.mem_map, ← hends]
    constructor
    · rintro ⟨stop, hstop, rfl⟩
      exact ⟨_, stop, hstop, rfl, rfl⟩
    · rintro ⟨b, stop, hstop, hstart, -⟩
      exact ⟨stop, hstop, hstart⟩
  · refine List.pairwise_map.mpr (hbefore.imp fun h ↦ ?_)
    exact Nat.lt_of_le_of_lt h.1 h.2.1

example :
    let sample (second : ℕ) (speed : Float) : Sample :=
      (Sample.of (.of 0.0 0.0) ⟨0, second, 0⟩).withSpeed speed
    stopStarts 0.5 60.0 [sample 0 0.0, sample 120 0.0, sample 130 8.0, sample 140 0.1,
      sample 150 0.1, sample 160 9.0, sample 170 0.0, sample 300 0.0] = [0, 6] := by
  decide +kernel

end FleetControl.Geo
