import FleetControl.Json.Tagged
import FleetControl.Proofs.Json.Tree

namespace FleetControl.Json

namespace Reader

variable {α : Type} {r : Reader α} {P : ℕ → α → Prop}

/-- All that a reader gives of drafts within `k` has what is said of `k`. -/
def Gives (r : Reader α) (P : ℕ → α → Prop) : Prop :=
  ∀ source d a k, d.within k = true → r source d = .ok a → P k a

theorem mismatch_ne_ok {expected : String} {d : Draft} {a : α} : mismatch expected d ≠ .ok a := by
  intro h
  unfold mismatch at h
  split at h
  case h_8 => split at h <;> cases h
  all_goals cases h

theorem gives_natBelow (bound : ℕ) (name : String) :
    (natBelow bound name).Gives fun _ n ↦ n < bound := by
  intro source d n k _ h
  unfold natBelow at h
  split at h
  · split at h
    next hn =>
      cases h
      simp only [Bool.and_eq_true, decide_eq_true_eq] at hn
      omega
    next => cases h
  · exact absurd h mismatch_ne_ok

theorem value_of_any {source : Source} {d : Draft} {v : Json} (h : any source d = .ok v) :
    d.value = .ok v := by
  unfold any lift at h
  split at h
  next w hw => cases h; exact hw
  next => cases h

theorem gives_any : any.Gives fun k v ↦ v.inOrder = true ∧ v.within k = true := by
  intro source d v k hd h
  have hv := value_of_any h
  exact ⟨inOrder_of_value hv, within_of_value hv hd⟩

theorem isNull_of_value {d : Draft} {v : Json} (h : d.value = .ok v) (hd : d ≠ .null) :
    v.isNull = false := by
  cases d with
  | null => exact absurd rfl hd
  | list ds fault =>
    obtain ⟨-, values, rfl, -⟩ := value_list.mp h
    rfl
  | object entries fault =>
    obtain ⟨-, values, rfl, -⟩ := value_object.mp h
    rfl
  | _ => cases h <;> rfl

theorem filter_of_not_isNull {o : Option Json} (h : ∀ v, o = some v → v.isNull = false) :
    (o.filter fun v ↦ !v.isNull) = o := by
  cases o with
  | none => rfl
  | some v => simp [Option.filter, h v rfl]

theorem eq_some_of_option {source : Source} {d : Draft} {a : α}
    (h : option r source d = .ok (some a)) : d ≠ .null ∧ r source d = .ok a := by
  unfold option at h
  split at h
  next => cases h
  next hnull =>
    refine ⟨fun hd ↦ hnull hd, ?_⟩
    cases hr : r source d with
    | error e => rw [hr] at h; cases h
    | ok b => rw [hr] at h; cases h; rfl

theorem gives_option (hr : r.Gives P) : (option r).Gives fun k o ↦ ∀ a, o = some a → P k a := by
  rintro source d o k hd h a rfl
  exact hr source d a k hd (eq_some_of_option h).2

theorem gives_any? : (option any).Gives fun k o ↦ ∀ v, o = some v →
    v.isNull = false ∧ v.inOrder = true ∧ v.within k = true := by
  rintro source d o k hd h v rfl
  obtain ⟨hnull, hread⟩ := eq_some_of_option h
  exact ⟨isNull_of_value (value_of_any hread) hnull, gives_any source d v k hd hread⟩

theorem value_of_fields {source : Source} {d : Draft} {fields : Fields}
    (h : Reader.fields source d = .ok fields) : d.value = .ok (.object fields) := by
  unfold Reader.fields at h
  split at h
  next entries fault =>
    cases hvalue : (Draft.object entries fault).value with
    | error f => simp [hvalue, lift] at h
    | ok v =>
      obtain ⟨-, values, rfl, -⟩ := value_object.mp hvalue
      simp only [hvalue, lift, Except.ok.injEq] at h
      rw [h]
  next => cases h
  next => exact absurd h mismatch_ne_ok

theorem gives_fields : Reader.fields.Gives fun k fields ↦
    (object fields).inOrder = true ∧ (object fields).within k = true :=
  fun _ _ _ _ hd h ↦
    ⟨inOrder_of_value (value_of_fields h), within_of_value (value_of_fields h) hd⟩

end Reader

namespace Record

variable {α β γ : Type} {r : Record α} {P : ℕ → α → Prop} {name : String} {k : ℕ}

structure Gives (r : Record α) (P : ℕ → α → Prop) : Prop where
  ofFields : ∀ source lookup a k, (∀ name d, lookup name = some d → d.within k = true) →
    r.ofFields source lookup = .ok a → P k a
  ofItems : ∀ source items a items' k, (∀ d ∈ items.rest, d.within k = true) →
    r.ofItems source items = .ok (a, items') → P k a ∧ ∀ d ∈ items'.rest, d.within k = true

theorem gives_pure {a : α} (h : ∀ k, P k a) : (Record.pure a).Gives P where
  ofFields _ _ _ k _ hread := by cases hread; exact h k
  ofItems _ _ _ _ k hitems hread := by cases hread; exact ⟨h k, hitems⟩

theorem Gives.seq {f : Record (α → β)} {Q : ℕ → β → Prop}
    (hf : f.Gives fun k g ↦ ∀ a, P k a → Q k (g a)) (hr : r.Gives P) : (f <*> r).Gives Q where
  ofFields source lookup b k hlookup hread := by
    change (f.seq r).ofFields source lookup = .ok b at hread
    unfold Record.seq at hread
    cases hg : f.ofFields source lookup with
    | error e => simp [hg] at hread
    | ok g =>
      cases ha : r.ofFields source lookup with
      | error e => simp [hg, ha, Except.map] at hread
      | ok a =>
        obtain rfl : g a = b := by simpa [hg, ha, Except.map] using hread
        exact hf.ofFields source lookup g k hlookup hg a (hr.ofFields source lookup a k hlookup ha)
  ofItems source items b items' k hitems hread := by
    change (f.seq r).ofItems source items = .ok (b, items') at hread
    unfold Record.seq at hread
    cases hg : f.ofItems source items with
    | error e => simp [hg] at hread
    | ok pair =>
      obtain ⟨g, between⟩ := pair
      cases ha : r.ofItems source between with
      | error e => simp [hg, ha, Except.map] at hread
      | ok pair =>
        obtain ⟨a, after⟩ := pair
        obtain ⟨rfl, rfl⟩ : g a = b ∧ after = items' := by simpa [hg, ha, Except.map] using hread
        obtain ⟨hgive, hbetween⟩ := hf.ofItems source items g between k hitems hg
        obtain ⟨ha, hafter⟩ := hr.ofItems source between a after k hbetween ha
        exact ⟨hgive a ha, hafter⟩

theorem Gives.map {Q : ℕ → β → Prop} (g : α → β) (hr : r.Gives P) (h : ∀ k a, P k a → Q k (g a)) :
    (g <$> r).Gives Q :=
  (gives_pure h).seq hr

theorem Gives.mono {Q : ℕ → α → Prop} (hr : r.Gives P) (h : ∀ k a, P k a → Q k a) : r.Gives Q where
  ofFields source lookup a k hlookup hread := h k a (hr.ofFields source lookup a k hlookup hread)
  ofItems source items a items' k hitems hread :=
    (hr.ofItems source items a items' k hitems hread).imp_left (h k a)

theorem gives_field {reader : Reader α} {absent : Except ReadError α}
    {short : Items → Except ReadError α} (hr : reader.Gives P)
    (habsent : ∀ k a, absent = .ok a → P k a) (hshort : ∀ k s a, short s = .ok a → P k a) :
    (field name reader absent short).Gives P where
  ofFields source lookup a k hlookup hread := by
    unfold field at hread
    cases hd : lookup name with
    | none => exact habsent k a (by simpa [hd] using hread)
    | some d => exact hr source d a k (hlookup name d hd) (by simpa [hd] using hread)
  ofItems source items a items' k hitems hread := by
    obtain ⟨taken, rest, fault, expected⟩ := items
    unfold field Items.next at hread
    cases rest with
    | nil =>
      cases fault with
      | some b => simp at hread
      | none =>
        cases hs : short ⟨taken, [], none, expected⟩ with
        | error e => simp [hs, Except.map] at hread
        | ok a' =>
          obtain ⟨rfl, rfl⟩ : a' = a ∧ _ = items' := by simpa [hs, Except.map] using hread
          exact ⟨hshort k _ a' hs, List.forall_mem_nil _⟩
    | cons d rest =>
      obtain ⟨hd, hrest⟩ := List.forall_mem_cons.mp hitems
      cases ha : reader source d with
      | error e => simp [ha, Except.map] at hread
      | ok a' =>
        obtain ⟨rfl, rfl⟩ : a' = a ∧ _ = items' := by simpa [ha, Except.map] using hread
        exact ⟨hr source d a' k hd ha, hrest⟩

theorem gives_required {reader : Reader α} (hr : reader.Gives P) : (required name reader).Gives P :=
  gives_field hr (fun _ _ h ↦ nomatch h) fun _ _ _ h ↦ nomatch h

theorem gives_optional {reader : Reader α} {P : ℕ → Option α → Prop}
    (hr : (Reader.option reader).Gives P) (hnone : ∀ k, P k none) :
    (optional name reader).Gives P :=
  gives_field hr (fun k a h ↦ by cases h; exact hnone k) fun _ _ _ h ↦ nomatch h

theorem gives_defaulted {reader : Reader α} {value : α} (hr : reader.Gives P)
    (hvalue : ∀ k, P k value) : (defaulted name reader value).Gives P :=
  gives_field hr (fun k a h ↦ by cases h; exact hvalue k) fun k _ a h ↦ by cases h; exact hvalue k

theorem gives_perhaps {reader : Reader α} {P : ℕ → Option α → Prop}
    (hr : (Reader.option reader).Gives P) (hnone : ∀ k, P k none) :
    (perhaps name reader).Gives P :=
  gives_defaulted hr hnone

theorem gives_some {reader : Reader α} {absent : Except ReadError α}
    {short : Items → Except ReadError α} : (field name reader absent short).Gives fun _ _ ↦ True :=
  gives_field (fun _ _ _ _ _ _ ↦ trivial) (fun _ _ _ ↦ trivial) fun _ _ _ _ ↦ trivial

theorem scan_subset {checks : List (String × Reader Unit)} {others : Draft → Except ReadError Unit}
    {source : Source} {fault : Option Broken} {seen entries kept : List (String × Draft)}
    (h : scan checks others source fault seen entries = .ok kept) :
    ∀ e ∈ kept, e ∈ seen ∨ e ∈ entries := by
  induction entries generalizing seen with
  | nil =>
    cases fault with
    | none => cases h; exact fun e he ↦ Or.inl he
    | some b => cases h
  | cons entry rest ih =>
    obtain ⟨key, d⟩ := entry
    intro e he
    cases hcheck : checks.lookup key with
    | none =>
      cases hothers : others d with
      | error f => simp [scan, hcheck, hothers] at h
      | ok u =>
        have hrest := ih (by simpa [scan, hcheck, hothers] using h) e he
        exact hrest.imp_right (List.mem_cons_of_mem _)
    | some check =>
      cases hseen : (seen.lookup key).isSome with
      | true => simp [scan, hcheck, hseen] at h
      | false =>
        cases hd : check source d with
        | error f => simp [scan, hcheck, hseen, hd] at h
        | ok u =>
          rcases ih (by simpa [scan, hcheck, hseen, hd] using h) e he with hs | hr
          · rcases List.mem_cons.mp hs with rfl | hs
            · exact Or.inr List.mem_cons_self
            · exact Or.inl hs
          · exact Or.inr (List.mem_cons_of_mem _ hr)

theorem within_of_scan {checks : List (String × Reader Unit)}
    {others : Draft → Except ReadError Unit} {source : Source} {fault : Option Broken}
    {entries kept : List (String × Draft)} (hentries : ∀ e ∈ entries, e.2.within k = true)
    (h : scan checks others source fault [] entries = .ok kept) (key : String) (d : Draft)
    (hd : kept.lookup key = some d) : d.within k = true := by
  obtain ⟨before, after, rfl, -⟩ := List.lookup_eq_some_iff.mp hd
  rcases scan_subset h (key, d) (List.mem_append_right _ List.mem_cons_self) with hmem | hmem
  · cases hmem
  · exact hentries _ hmem

/-- The parts of a record are nested one less deep than the record. -/
theorem Gives.reader (hr : r.Gives fun k a ↦ P (k + 1) a) (name : String) :
    (r.reader name).Gives P := by
  intro source d a k hd h
  unfold Record.reader at h
  split at h
  next entries fault =>
    cases k with
    | zero => cases hd
    | succ k =>
      have hentries : ∀ e ∈ entries, e.2.within k = true := List.all_eq_true.mp hd
      unfold readEntries at h
      cases hscan : scan r.checks passOver source fault [] entries with
      | error e => simp [hscan] at h
      | ok kept =>
        exact hr.ofFields source _ a k (within_of_scan hentries hscan) (by simpa [hscan] using h)
  next ds fault =>
    cases k with
    | zero => cases hd
    | succ k =>
      have hitems : ∀ d ∈ ds, d.within k = true := List.all_eq_true.mp hd
      cases hread : r.ofItems source ⟨0, ds, fault, r.listName name⟩ with
      | error e => simp [hread] at h
      | ok pair =>
        obtain ⟨a', after⟩ := pair
        have hgive := (hr.ofItems source _ a' after k hitems hread).1
        cases hsurplus : Reader.noSurplus source after.taken after.rest fault with
        | error e => simp [hread, hsurplus, Except.map] at h
        | ok u =>
          obtain rfl : a' = a := by simpa [hread, hsurplus, Except.map] using h
          exact hgive
  next => cases h
  next => exact absurd h Reader.mismatch_ne_ok

theorem readerWith_ok {inner : List (String × Draft) → Except ReadError β} {combine : α → β → γ}
    {source : Source} {d : Draft} {c : γ} (h : r.readerWith name inner combine source d = .ok c) :
    ∃ entries fault kept a b, d = .object entries fault ∧
      scan r.checks (fun d ↦ (Reader.setAside d).map fun _ ↦ ()) source fault [] entries = .ok kept ∧
      r.ofFields source (fun name ↦ kept.lookup name) = .ok a ∧
      inner (entries.filter fun e ↦ (r.checks.lookup e.1).isNone) = .ok b ∧ c = combine a b := by
  unfold Record.readerWith at h
  split at h
  next entries fault =>
    cases hscan : scan r.checks (fun d ↦ (Reader.setAside d).map fun _ ↦ ()) source fault []
        entries with
    | error e => simp [hscan] at h
    | ok kept =>
      simp only [hscan] at h
      cases ha : r.ofFields source fun name ↦ kept.lookup name with
      | error e => simp [ha] at h
      | ok a =>
        simp only [ha] at h
        cases hb : inner (entries.filter fun e ↦ (r.checks.lookup e.1).isNone) with
        | error e => simp [hb, Except.map] at h
        | ok b =>
          have hc : combine a b = c := by simpa [hb, Except.map] using h
          exact ⟨entries, fault, kept, a, b, rfl, hscan, ha, hb, hc.symm⟩
  next => cases h
  next => exact absurd h Reader.mismatch_ne_ok

theorem Gives.readerWith (hr : r.Gives P) {inner : List (String × Draft) → Except ReadError β}
    {Q : ℕ → β → Prop} {R : ℕ → γ → Prop} {combine : α → β → γ}
    (hinner : ∀ others b k, (∀ e ∈ others, e.2.within k = true ∧ e.1 ∉ r.names) →
      inner others = .ok b → Q k b)
    (h : ∀ k a b, P k a → Q k b → R (k + 1) (combine a b)) (name : String) :
    (r.readerWith name inner combine).Gives R := by
  intro source d c k hd hread
  obtain ⟨entries, fault, kept, a, b, rfl, hscan, ha, hb, rfl⟩ := readerWith_ok hread
  cases k with
  | zero => cases hd
  | succ k =>
    have hentries : ∀ e ∈ entries, e.2.within k = true := List.all_eq_true.mp hd
    refine h k a b (hr.ofFields source _ a k (within_of_scan hentries hscan) ha) ?_
    refine hinner _ b k (fun e he ↦ ?_) hb
    obtain ⟨hmem, hnone⟩ := List.mem_filter.mp he
    refine ⟨hentries e hmem, fun hname ↦ ?_⟩
    have hsome := isSome_lookup hname
    rw [Option.isNone_iff_eq_none.mp hnone] at hsome
    cases hsome

end Record

namespace Reader

variable {α : Type} {P : ℕ → α → Prop} {tag name : String}

theorem mem_of_named {variants : List (String × α)} {name : String} {a : α}
    (h : named variants name = .ok a) : (name, a) ∈ variants := by
  unfold named at h
  cases hlookup : variants.lookup name with
  | none => simp [hlookup] at h
  | some b =>
    obtain rfl : b = a := by simpa [hlookup] using h
    obtain ⟨before, after, rfl, -⟩ := List.lookup_eq_some_iff.mp hlookup
    exact List.mem_append_right _ List.mem_cons_self

theorem mem_of_variantName {variants : List (String × α)} {source : Source} {d : Draft} {a : α}
    (h : variantName variants source d = .ok a) : ∃ e ∈ variants, e.2 = a := by
  unfold variantName at h
  split at h
  · exact ⟨_, mem_of_named h, rfl⟩
  · exact absurd h mismatch_ne_ok

theorem mem_of_scanTagged {variants : List (String × α)} {source : Source} {fault : Option Broken}
    {chosen : Option α} {entries : List (String × Draft)} {a : α}
    (h : scanTagged tag variants source fault chosen entries = .ok a)
    (hchosen : ∀ b, chosen = some b → ∃ e ∈ variants, e.2 = b) : ∃ e ∈ variants, e.2 = a := by
  induction entries generalizing chosen with
  | nil =>
    cases fault with
    | some b => cases h
    | none =>
      cases chosen with
      | none => cases h
      | some b => cases h; exact hchosen a rfl
  | cons entry rest ih =>
    obtain ⟨key, d⟩ := entry
    rw [scanTagged] at h
    split at h
    · split at h
      · cases h
      · cases hv : variantName variants source d with
        | error e => simp [hv] at h
        | ok b =>
          refine ih (by simpa [hv] using h) fun c hc ↦ ?_
          obtain rfl := Option.some.inj hc
          exact mem_of_variantName hv
    · cases hd : setAside d with
      | error e => simp [hd] at h
      | ok u => exact ih (by simpa [hd] using h) hchosen

theorem eq_of_setAside {d d' : Draft} (h : setAside d = .ok d') : d' = d := by
  unfold setAside at h
  cases hv : lift d.value with
  | error e => simp [hv, Except.map] at h
  | ok v => simpa [hv, Except.map, eq_comm] using h

theorem items_setAside {source : Source} {fault : Option Broken} {ds rest : List Draft}
    (h : items (fun _ d ↦ setAside d) source fault ds = .ok rest) : rest = ds := by
  induction ds generalizing rest with
  | nil =>
    cases fault with
    | none => cases h; rfl
    | some b => cases h
  | cons d ds ih =>
    rw [items] at h
    cases hd : setAside d with
    | error e => simp [hd] at h
    | ok d' =>
      have heq := eq_of_setAside hd
      cases hrest : items (fun _ d ↦ setAside d) source fault ds with
      | error e => simp [hd, hrest, Except.map] at h
      | ok rest' =>
        obtain rfl : d' :: rest' = rest := by simpa [hd, hrest, Except.map] using h
        rw [heq, ih hrest]

theorem gives_tagged {variants : List (String × Reader α)} (h : ∀ e ∈ variants, e.2.Gives P) :
    (tagged tag name variants).Gives P := by
  intro source d a k hd hread
  unfold tagged at hread
  split at hread
  next entries fault =>
    cases k with
    | zero => cases hd
    | succ k =>
      cases hscan : scanTagged tag variants source fault none entries with
      | error e => simp [hscan] at hread
      | ok r =>
        obtain ⟨e, he, rfl⟩ := mem_of_scanTagged hscan fun b hb ↦ nomatch hb
        refine h e he .aside _ a (k + 1) ?_ (by simpa [hscan] using hread)
        have hentries : ∀ e ∈ entries, e.2.within k = true := List.all_eq_true.mp hd
        exact List.all_eq_true.mpr fun f hf ↦ hentries f (List.mem_filter.mp hf).1
  next ds fault =>
    cases ds with
    | nil => cases fault <;> cases hread
    | cons first rest =>
      cases k with
      | zero => cases hd
      | succ k =>
        cases hv : variantName variants source first with
        | error e => simp [hv] at hread
        | ok r =>
          obtain ⟨e, he, rfl⟩ := mem_of_variantName hv
          cases hrest : items (fun _ d ↦ setAside d) source fault rest with
          | error f => simp [hv, hrest] at hread
          | ok rest' =>
            obtain rfl := items_setAside hrest
            refine h e he .aside _ a (k + 1) ?_ (by simpa [hv, hrest] using hread)
            have hds := List.all_eq_true.mp hd
            exact List.all_eq_true.mpr fun d hd ↦ hds d (List.mem_cons_of_mem _ hd)
  next => cases hread
  next => exact absurd hread mismatch_ne_ok

theorem mem_of_variant {variants : List (String × α)} {source : Source} {d : Draft} {a : α}
    (h : variant variants source d = .ok a) : ∃ e ∈ variants, e.2 = a := by
  unfold variant at h
  split at h
  · exact ⟨_, mem_of_named h, rfl⟩
  · cases h
  · cases h
  · cases h
  next entries fault =>
    cases entries with
    | nil => cases fault <;> cases h
    | cons entry rest =>
      obtain ⟨name, d⟩ := entry
      cases hn : named variants name with
      | error e => simp [hn] at h
      | ok b =>
        refine ⟨_, mem_of_named hn, ?_⟩
        simp only [hn] at h
        split at h <;> cases h
        rfl
  · cases h
  next name d _ _ =>
    cases hn : named variants name with
    | error e => simp [hn] at h
    | ok b =>
      refine ⟨_, mem_of_named hn, ?_⟩
      cases hu : unit source d with
      | error e => simp [hn, hu, Except.map] at h
      | ok u => simpa [hn, hu, Except.map] using h
  · cases h
  · exact absurd h mismatch_ne_ok

end Reader

def Content.Gives {α : Type} (P : ℕ → α → Prop) : Content α → Prop
  | .alone a _ => ∀ k, P k a
  | .holding r => r.Gives P

namespace Content

variable {α : Type} {P : ℕ → α → Prop} {c : Content α}

theorem Gives.reader (h : c.Gives P) : c.reader.Gives P := by
  cases c with
  | alone a title =>
    intro source d b k _ hread
    simp only [Content.reader] at hread
    split at hread
    · cases hread
      exact h k
    · exact absurd hread Reader.mismatch_ne_ok
  | holding r => exact h

theorem Gives.withoutValue (h : c.Gives P) {key : String} {a : α}
    (ha : c.withoutValue key = .ok a) (k : ℕ) : P k a := by
  cases c with
  | alone b title => cases ha; exact h k
  | holding r => cases ha

end Content

def Choosing.Gives {α : Type} (P : ℕ → α → Prop) (k : ℕ) : Choosing α → Prop
  | .nothing => True
  | .value d => d.within k = true
  | .tag c => c.Gives P
  | .both a => P k a

theorem Choosing.gives_of_scan {α : Type} {P : ℕ → α → Prop} {k : ℕ} {tag key : String}
    {variants : List (String × Content α)} {source : Source} {fault : Option Broken}
    {known : Choosing α} {entries : List (String × Draft)} {a : α}
    (hvariants : ∀ e ∈ variants, e.2.Gives P) (hentries : ∀ e ∈ entries, e.2.within k = true)
    (hknown : known.Gives P k)
    (h : scanChoice tag key variants source fault known entries = .ok a) : P k a := by
  induction entries generalizing known with
  | nil =>
    cases fault with
    | some b => cases h
    | none =>
      cases known with
      | tag c => exact hknown.withoutValue h k
      | both b => cases h; exact hknown
      | _ => cases h
  | cons entry rest ih =>
    obtain ⟨name, d⟩ := entry
    obtain ⟨hd, hrest⟩ := List.forall_mem_cons.mp hentries
    by_cases htag : name = tag
    · subst htag
      cases hv : Reader.variant variants source d with
      | error e => cases known <;> simp [scanChoice, hv] at h
      | ok c =>
        obtain ⟨e, he, rfl⟩ := Reader.mem_of_variant hv
        have hc := hvariants e he
        cases known with
        | nothing =>
          have hnext : (Choosing.tag e.2).Gives P k := hc
          exact ih hrest hnext (by simpa [scanChoice, hv] using h)
        | value d' =>
          -- the value came before its tag and was set aside
          cases ha : e.2.reader .aside d' with
          | error f => simp [scanChoice, hv, ha] at h
          | ok b =>
            have hnext : (Choosing.both b).Gives P k := hc.reader .aside d' b k hknown ha
            exact ih hrest hnext (by simpa [scanChoice, hv, ha] using h)
        | _ => simp [scanChoice] at h
    · by_cases hkey : name = key
      · subst hkey
        cases known with
        | nothing =>
          cases hs : Reader.setAside d with
          | error e => simp [scanChoice, htag, hs] at h
          | ok d' =>
            obtain rfl := Reader.eq_of_setAside hs
            have hnext : Choosing.Gives P k (.value d') := hd
            exact ih hrest hnext (by simpa [scanChoice, htag, hs] using h)
        | tag c =>
          cases ha : c.reader source d with
          | error e => simp [scanChoice, htag, ha] at h
          | ok b =>
            have hnext : (Choosing.both b).Gives P k := hknown.reader source d b k hd ha
            exact ih hrest hnext (by simpa [scanChoice, htag, ha] using h)
        | _ => simp [scanChoice, htag] at h
      · cases hp : Record.passOver d with
        | error e => simp [scanChoice, htag, hkey, hp] at h
        | ok u => exact ih hrest hknown (by simpa [scanChoice, htag, hkey, hp] using h)

namespace Reader

theorem gives_beside {α : Type} {P : ℕ → α → Prop} {tag key name : String}
    {variants : List (String × Content α)} (h : ∀ e ∈ variants, e.2.Gives fun k a ↦ P (k + 1) a) :
    (beside tag key name variants).Gives P := by
  intro source d a k hd hread
  unfold beside at hread
  split at hread
  next entries fault =>
    cases k with
    | zero => cases hd
    | succ k =>
      have hentries : ∀ e ∈ entries, e.2.within k = true := List.all_eq_true.mp hd
      have hnothing : (Choosing.nothing : Choosing α).Gives (fun k a ↦ P (k + 1) a) k := trivial
      have hgive := Choosing.gives_of_scan h hentries hnothing hread
      exact hgive
  next ds fault =>
    cases k with
    | zero => cases hd
    | succ k =>
      have hds : ∀ d ∈ ds, d.within k = true := List.all_eq_true.mp hd
      cases ds with
      | nil => cases fault <;> cases hread
      | cons first rest =>
        cases hv : variantName variants source first with
        | error e => simp [hv] at hread
        | ok c =>
          obtain ⟨e, he, rfl⟩ := mem_of_variantName hv
          cases rest with
          | nil => cases fault <;> simp [hv] at hread
          | cons second rest =>
            cases ha : e.2.reader source second with
            | error f => simp [hv, ha] at hread
            | ok b =>
              have hsecond := hds second (List.mem_cons_of_mem _ List.mem_cons_self)
              have hb := (h e he).reader source second b k hsecond ha
              cases hs : noSurplus source 2 rest fault with
              | error f => simp [hv, ha, hs, Except.map] at hread
              | ok u =>
                obtain rfl : b = a := by simpa [hv, ha, hs, Except.map] using hread
                exact hb
  next => cases hread
  next => exact absurd hread mismatch_ne_ok

end Reader

end FleetControl.Json
