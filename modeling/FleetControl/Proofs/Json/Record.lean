import FleetControl.Json.Shape
import Mathlib.Data.List.Nodup

namespace FleetControl.Json

namespace Draft

mutual

theorem skipFault_draft : ∀ v : Json, v.draft.skipFault = none
  | .null => rfl
  | .bool _ => rfl
  | .number _ => rfl
  | .text _ => rfl
  | .list items => by simp [draft, skipFault, skipItemsFault_draftItems items]
  | .object fields => by simp [draft, skipFault, skipEntriesFault_draftFields fields]

theorem skipItemsFault_draftItems : ∀ items : List Json, skipItemsFault (draftItems items) = none
  | [] => rfl
  | v :: rest => by
    simp [draftItems, skipItemsFault, skipFault_draft v, skipItemsFault_draftItems rest]

theorem skipEntriesFault_draftFields :
    ∀ fields : List (String × Json), skipEntriesFault (draftFields fields) = none
  | [] => rfl
  | (_, v) :: rest => by
    simp [draftFields, skipEntriesFault, skipFault_draft v, skipEntriesFault_draftFields rest]

end

end Draft

theorem lookup_cons_of_ne {β : Type} {key name : String} (h : name ≠ key) (b : β)
    (rest : List (String × β)) : ((key, b) :: rest).lookup name = rest.lookup name := by
  rw [List.lookup_cons, beq_eq_false_iff_ne.mpr h]

theorem lookup_of_mem {β : Type} {entries : List (String × β)} (hd : (entries.map Prod.fst).Nodup)
    {entry : String × β} (h : entry ∈ entries) : entries.lookup entry.1 = some entry.2 := by
  induction entries with
  | nil => cases h
  | cons first rest ih =>
    rw [List.map_cons, List.nodup_cons] at hd
    rcases List.mem_cons.mp h with rfl | h
    · exact List.lookup_cons_self
    · have hne : entry.1 ≠ first.1 := fun he ↦ hd.1 (he ▸ List.mem_map_of_mem h)
      rw [← ih hd.2 h]
      exact lookup_cons_of_ne hne first.2 rest

theorem lookup_of_not_mem {β : Type} {entries : List (String × β)} {name : String}
    (h : name ∉ entries.map Prod.fst) : entries.lookup name = none := by
  rw [List.lookup_eq_none_iff]
  intro entry hentry
  rw [bne_iff_ne]
  exact fun he ↦ h (he ▸ List.mem_map_of_mem hentry)

theorem isSome_lookup {β : Type} {entries : List (String × β)} {name : String}
    (h : name ∈ entries.map Prod.fst) : (entries.lookup name).isSome = true := by
  rw [← Bool.not_eq_false, Option.isSome_eq_false_iff, Option.isNone_iff_eq_none,
    List.lookup_eq_none_iff]
  intro hnone
  obtain ⟨entry, hentry, rfl⟩ := List.mem_map.mp h
  simpa using hnone entry hentry

namespace Record

variable {α β : Type} {source : Source} {fields : List (String × Json)} {a : α}

def under (fields : List (String × Json)) (name : String) : Option Draft :=
  (fields.lookup name).map draft

/-- The fields of a record are found in an object and have a value together: each that is there has the
shape it has to have, and the value is read whatever else is there. -/
structure Reads (r : Record α) (source : Source) (fields : List (String × Json)) (a : α) :
    Prop where
  checked : ∀ name check, r.checks.lookup name = some check → ∀ v, fields.lookup name = some v →
    check source v.draft = .ok ()
  read : ∀ lookup : String → Option Draft, (∀ name ∈ r.names, lookup name = under fields name) →
    r.ofFields source lookup = .ok a

theorem reads_pure (a : α) (source : Source) (fields : List (String × Json)) :
    (Record.pure a).Reads source fields a where
  checked _ _ h := by cases h
  read _ _ := rfl

theorem Reads.seq {f : Record (α → β)} {r : Record α} {g : α → β} (hf : f.Reads source fields g)
    (hr : r.Reads source fields a) : (f <*> r).Reads source fields (g a) where
  checked name check h v hv := by
    change (f.checks ++ r.checks).lookup name = some check at h
    rw [List.lookup_append, Option.or_eq_some_iff] at h
    rcases h with h | ⟨-, h⟩
    · exact hf.checked name check h v hv
    · exact hr.checked name check h v hv
  read lookup h := by
    change ∀ name ∈ (f.checks ++ r.checks).map Prod.fst, lookup name = under fields name at h
    rw [List.map_append, List.forall_mem_append] at h
    change (f.seq r).ofFields source lookup = .ok (g a)
    simp only [Record.seq, hf.read lookup h.1, hr.read lookup h.2]
    rfl

theorem Reads.map {r : Record α} (g : α → β) (hr : r.Reads source fields a) :
    (g <$> r).Reads source fields (g a) :=
  (reads_pure g source fields).seq hr

theorem reads_field {name : String} {r : Reader α} {absent : Except ReadError α}
    {short : Items → Except ReadError α}
    (h : (under fields name).elim absent (r source) = .ok a) :
    (field name r absent short).Reads source fields a where
  checked name' check hcheck v hv := by
    by_cases hn : name' = name
    · subst hn
      obtain rfl : check = fun source d ↦ (r source d).map fun _ ↦ () := by
        simpa [field, eq_comm] using hcheck
      simp only [under, hv, Option.map_some, Option.elim_some] at h
      simp [h, Except.map]
    · rw [field, lookup_cons_of_ne hn] at hcheck
      cases hcheck
  read lookup hlookup := by
    have hname : lookup name = under fields name := hlookup name (List.mem_singleton_self name)
    cases hu : under fields name with
    | none => simpa [field, hname, hu] using h
    | some d => simpa [field, hname, hu] using h

theorem scan_whole {checks : List (String × Reader Unit)} {others : Draft → Except ReadError Unit}
    (hothers : ∀ entry ∈ fields, others entry.2.draft = .ok ()) (seen : List (String × Draft))
    (hd : (fields.map Prod.fst).Nodup)
    (hseen : ∀ key ∈ fields.map Prod.fst, seen.lookup key = none)
    (hchecks : ∀ entry ∈ fields, ∀ check, checks.lookup entry.1 = some check →
      check source entry.2.draft = .ok ()) :
    ∃ kept, scan checks others source none seen (draftFields fields) = .ok kept ∧
      ∀ name, (checks.lookup name).isSome = true →
        kept.lookup name = (under fields name).or (seen.lookup name) := by
  induction fields generalizing seen with
  | nil => exact ⟨seen, rfl, fun _ _ ↦ rfl⟩
  | cons entry rest ih =>
    obtain ⟨key, v⟩ := entry
    rw [List.map_cons, List.nodup_cons] at hd
    rw [List.map_cons, List.forall_mem_cons] at hseen
    rw [List.forall_mem_cons] at hchecks hothers
    have hunder {name : String} (hne : name ≠ key) :
        under ((key, v) :: rest) name = under rest name := by
      rw [under, under, lookup_cons_of_ne hne]
    cases hcheck : checks.lookup key with
    | none =>
      obtain ⟨kept, hscan, hkept⟩ := ih hothers.2 seen hd.2 hseen.2 hchecks.2
      refine ⟨kept, ?_, fun name hname ↦ ?_⟩
      · simpa [draftFields, scan, hcheck, hothers.1] using hscan
      · have hne : name ≠ key := by
          rintro rfl
          simp [hcheck] at hname
        rw [hkept name hname, hunder hne]
    | some check =>
      have hrest : ∀ name ∈ rest.map Prod.fst, ((key, v.draft) :: seen).lookup name = none := by
        intro name hname
        have hne : name ≠ key := fun he ↦ hd.1 (he ▸ hname)
        rw [lookup_cons_of_ne hne, hseen.2 name hname]
      obtain ⟨kept, hscan, hkept⟩ := ih hothers.2 ((key, v.draft) :: seen) hd.2 hrest hchecks.2
      refine ⟨kept, ?_, fun name hname ↦ ?_⟩
      · simpa [draftFields, scan, hcheck, hseen.1, hchecks.1 check hcheck] using hscan
      · rw [hkept name hname]
        by_cases hne : name = key
        · subst hne
          simp [under, lookup_of_not_mem hd.1]
        · rw [hunder hne, lookup_cons_of_ne hne]

theorem Reads.scan {r : Record α} (h : r.Reads source fields a)
    (hd : (fields.map Prod.fst).Nodup) (others : Draft → Except ReadError Unit)
    (hothers : ∀ entry ∈ fields, others entry.2.draft = .ok ()) :
    ∃ kept, Record.scan r.checks others source none [] (draftFields fields) = .ok kept ∧
      r.ofFields source (fun name ↦ kept.lookup name) = .ok a := by
  have hchecks : ∀ entry ∈ fields, ∀ check, r.checks.lookup entry.1 = some check →
      check source entry.2.draft = .ok () :=
    fun entry hentry check hcheck ↦ h.checked _ _ hcheck _ (lookup_of_mem hd hentry)
  obtain ⟨kept, hscan, hkept⟩ := scan_whole hothers [] hd (fun _ _ ↦ rfl) hchecks
  refine ⟨kept, hscan, h.read _ fun name hname ↦ ?_⟩
  rw [hkept name (isSome_lookup hname)]
  simp

theorem passOver_draft (v : Json) : passOver v.draft = .ok () := by
  rw [passOver, Draft.skipFault_draft]

theorem Reads.readEntries {r : Record α} (h : r.Reads source fields a)
    (hd : (fields.map Prod.fst).Nodup) :
    r.readEntries source none (draftFields fields) = .ok a := by
  obtain ⟨kept, hscan, hread⟩ := h.scan hd passOver fun entry _ ↦ passOver_draft entry.2
  simp [Record.readEntries, hscan, hread]

/-- A record is read from a whole object that has what its fields need. -/
theorem Reads.reader {r : Record α} (h : r.Reads source fields a) (hd : (fields.map Prod.fst).Nodup)
    (name : String) : r.reader name source (draft (.object fields)) = .ok a := by
  rw [draft]
  exact h.readEntries hd

end Record

end FleetControl.Json
