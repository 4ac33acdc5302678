import FleetControl.Json.Tagged
import FleetControl.Proofs.Json.Rendering

namespace FleetControl.Json

attribute [simp] lookup_ofList

@[simp]
theorem lookup_entry {α : Type} (key name : String) (f : α → Json) (o : Option α) :
    ( entry? key f o).lookup name = if name = key then o.map f else none := by
  cases o with
  | none => simp [ entry?]
  | some a =>
    by_cases h : name = key
    · subst h
      rw [if_pos rfl]
      exact List.lookup_cons_self
    · rw [if_neg h]
      exact lookup_cons_of_ne h _ _

@[simp]
theorem reverse_entry {α : Type} (key : String) (f : α → Json) (o : Option α) :
    ( entry? key f o).reverse = entry? key f o := by
  cases o <;> rfl

theorem lookup_filter {β : Type} (p : String → Bool) (entries : List (String × β))
    (name : String) : (entries.filter fun e ↦ p e.1).lookup name =
      if p name then entries.lookup name else none := by
  induction entries with
  | nil => simp
  | cons e rest ih =>
    by_cases he : p e.1 = true
    · rw [List.filter_cons, if_pos he]
      by_cases hname : name = e.1
      · subst hname
        rw [if_pos he]
        exact List.lookup_cons_self.trans List.lookup_cons_self.symm
      · rw [lookup_cons_of_ne hname, lookup_cons_of_ne hname, ih]
    · rw [List.filter_cons, if_neg he, ih]
      by_cases hname : name = e.1
      · subst hname
        simp [he]
      · rw [lookup_cons_of_ne hname]

theorem filter_draftFields (p : String → Bool) (fields : Fields) :
    (draftFields fields).filter (fun e ↦ p e.1) = draftFields (fields.filter fun f ↦ p f.1) := by
  rw [draftFields_eq, draftFields_eq, List.filter_map]
  rfl

theorem Rising.filter {fields : Fields} (h : Rising fields) (p : String × Json → Bool) :
    Rising (fields.filter p) :=
  List.Pairwise.filter p h

theorem double_of_isFinite {x : Float} (h : x.isFinite = true) :
    Json.double x = .number (.double x) :=
  if_pos h

theorem isFinite_of_survives {x : Float} (h : (Number.double x).survives = true) :
    x.isFinite = true :=
  isFinite_of_tokens (Draft.tokens_of_parse_number (Number.parse_render h))

theorem double_eq {x : Float} (h : (Number.double x).survives = true) :
    Json.double x = .number (.double x) :=
  double_of_isFinite (isFinite_of_survives h)

/-- A value that is read from its own text as it is: its keys are in order, it is nested within `k`, and
its numbers survive. -/
structure Sendable (k : ℕ) (v : Json) : Prop where
  ordered : v.inOrder = true
  nested : v.within k = true
  survives : ∀ n ∈ v.numbers, n.survives = true

namespace Sendable

variable {k : ℕ} {v : Json}

theorem mono (h : Sendable k v) {m : ℕ} (hm : k ≤ m) : Sendable m v :=
  ⟨h.ordered, within_mono hm h.nested, h.survives⟩

theorem null : Sendable k .null := ⟨rfl, by cases k <;> rfl, fun _ h ↦ nomatch h⟩

theorem bool (b : Bool) : Sendable k (.bool b) := ⟨rfl, by cases k <;> rfl, fun _ h ↦ nomatch h⟩

theorem text (s : String) : Sendable k (.text s) := ⟨rfl, by cases k <;> rfl, fun _ h ↦ nomatch h⟩

theorem number {n : Number} (h : n.survives = true) : Sendable k (.number n) :=
  ⟨rfl, by cases k <;> rfl, fun m hm ↦ by rwa [List.mem_singleton.mp hm]⟩

theorem double {x : Float} (h : (Number.double x).survives = true) : Sendable k (.double x) := by
  rw [double_eq h]
  exact number h

theorem list {items : List Json} (h : ∀ v ∈ items, Sendable k v) :
    Sendable (k + 1) (.list items) where
  ordered := inOrder_list.mpr fun v hv ↦ (h v hv).ordered
  nested := List.all_eq_true.mpr fun v hv ↦ (h v hv).nested
  survives n hn := by
    obtain ⟨v, hv, hn⟩ := mem_itemsNumbers.mp hn
    exact (h v hv).survives n hn

theorem object {fields : Fields} (hrising : Rising fields) (h : ∀ f ∈ fields, Sendable k f.2) :
    Sendable (k + 1) (.object fields) where
  ordered := inOrder_object.mpr ⟨hrising, fun f hf ↦ (h f hf).ordered⟩
  nested := List.all_eq_true.mpr fun f hf ↦ (h f hf).nested
  survives n hn := by
    obtain ⟨f, hf, hn⟩ := mem_fieldsNumbers.mp hn
    exact (h f hf).survives n hn

theorem ofEntries {entries : Fields} (h : ∀ e ∈ entries, Sendable k e.2) :
    Sendable (k + 1) (ofEntries entries) :=
  object (rising_ofList entries) fun f hf ↦ h f (mem_of_mem_ofList hf)

theorem option {α : Type} {f : α → Json} {o : Option α} (h : ∀ a, o = some a → Sendable k (f a)) :
    Sendable k (Json.option f o) := by
  cases o with
  | none => exact null
  | some a => exact h a rfl

theorem entry {α : Type} {key : String} {f : α → Json} {o : Option α}
    (h : ∀ a, o = some a → Sendable k (f a)) : ∀ e ∈ Json.entry? key f o, Sendable k e.2 := by
  cases o with
  | none => exact List.forall_mem_nil _
  | some a => exact List.forall_mem_singleton.mpr (h a rfl)

end Sendable

namespace Reader

variable {α β : Type} {r : Reader α} {v : Json} {a : α}

/-- A value is taken for `a`, whatever it is read from. -/
def Takes (r : Reader α) (v : Json) (a : α) : Prop :=
  ∀ source, r source v.draft = .ok a

theorem Takes.readValue (h : r.Takes v a) : Json.readValue r v = .ok a := h .value

theorem Takes.readText (h : r.Takes v a) (hv : Sendable 127 v) :
    Json.readText r v.render = .ok a := by
  simp [Json.readText, ofText_render hv.nested hv.survives, h .text]

theorem takes_text (s : String) : text.Takes (.text s) s := fun _ ↦ rfl

theorem takes_bool (b : Bool) : bool.Takes (.bool b) b := fun _ ↦ rfl

theorem double_ne_null {x : Float} (h : (Number.double x).survives = true) :
    Json.double x ≠ .null := by
  rw [double_eq h]
  exact Json.noConfusion

theorem takes_double_of_isFinite {x : Float} (h : x.isFinite = true) :
    double.Takes (.double x) x := by
  intro source
  rw [double_of_isFinite h]
  rfl

theorem takes_double {x : Float} (h : (Number.double x).survives = true) :
    double.Takes (.double x) x :=
  takes_double_of_isFinite (isFinite_of_survives h)

theorem takes_natBelow {n bound : ℕ} (h : n < bound) (name : String) :
    (natBelow bound name).Takes (.nat n) n := by
  intro source
  simp [nat, draft, natBelow, h]

theorem takes_instant {t : Instant} (h : Instant.parse t.render = .ok t) :
    instant.Takes (.text t.render) t := by
  intro source
  simp [draft, instant, h]

theorem takes_identifier {id : Identifier} (h : Identifier.parse id.render = .ok id) :
    identifier.Takes (.text id.render) id := by
  intro source
  simp [draft, identifier, h]

theorem takes_variant {variants : List (String × α)} {name : String}
    (h : variants.lookup name = some a) : (variant variants).Takes (.text name) a := by
  intro source
  simp [draft, variant, named, h]

theorem takes_any (h : v.inOrder = true) : any.Takes v v := by
  intro source
  rw [any, value_draft h]
  rfl

theorem takes_fields {fields : Fields} (h : (object fields).inOrder = true) :
    Reader.fields.Takes (.object fields) fields := by
  intro source
  have hvalue := value_draft h
  rw [draft] at hvalue ⊢
  simp [Reader.fields, hvalue, lift]

theorem takes_some (h : r.Takes v a) (hv : v ≠ .null) : (option r).Takes v (some a) := by
  intro source
  have hdraft : v.draft ≠ .null := by
    cases v <;> first | exact absurd rfl hv | exact Draft.noConfusion
  have ha := h source
  cases hd : v.draft with
  | null => exact absurd hd hdraft
  | _ => rw [hd] at ha; simp [option, ha, Except.map]

theorem takes_option {f : α → Json} {o : Option α}
    (h : ∀ a, o = some a → r.Takes (f a) a ∧ f a ≠ .null) :
    (option r).Takes (Json.option f o) o := by
  cases o with
  | none => exact fun _ ↦ rfl
  | some a => exact takes_some (h a rfl).1 (h a rfl).2

/-- Of values of any kind, null is written as what is absent is, and is read as absent. -/
theorem takes_any? {o : Option Json} (h : ∀ v, o = some v → v.inOrder = true) :
    (option any).Takes (o.getD .null) (o.filter fun v ↦ !v.isNull) := by
  cases o with
  | none => exact fun _ ↦ rfl
  | some v =>
    cases v with
    | null => exact fun _ ↦ rfl
    | _ => exact takes_some (takes_any (h _ rfl)) Json.noConfusion

theorem items_draftItems {source : Source} {f : α → Json} {as : List α}
    (h : ∀ a ∈ as, r.Takes (f a) a) :
    items r source none (draftItems (as.map f)) = .ok as := by
  induction as with
  | nil => rfl
  | cons a rest ih =>
    obtain ⟨ha, hrest⟩ := List.forall_mem_cons.mp h
    rw [List.map_cons, draftItems, items, ha source, ih hrest]
    rfl

theorem takes_list {f : α → Json} {as : List α} (h : ∀ a ∈ as, r.Takes (f a) a) :
    (list r).Takes (.list (as.map f)) as := by
  intro source
  rw [draft]
  exact items_draftItems h

theorem takes_exactly {f : α → Json} {as : List α} {n : ℕ} (hn : as.length = n)
    (h : ∀ a ∈ as, r.Takes (f a) a) : (exactly r n).Takes (.list (as.map f)) as := by
  intro source
  have hlength : (draftItems (as.map f)).length = n := by
    rw [draftItems_eq, List.length_map, List.length_map, hn]
  rw [draft, exactly, if_neg (Nat.not_lt_of_le (Nat.le_of_eq hlength.symm)),
    List.take_of_length_le (Nat.le_of_eq hlength), List.drop_of_length_le (Nat.le_of_eq hlength),
    items_draftItems h]
  rfl

end Reader

namespace Record

theorem lookup_checks_isNone {α : Type} {r : Record α} {name : String} (h : name ∉ r.names) :
    (r.checks.lookup name).isNone = true := by
  rw [lookup_of_not_mem h]
  rfl

variable {α β γ : Type} {source : Source} {fields entries : Fields} {name : String} {v : Json}
  {a : α} {b : β}

theorem reads_present {r : Reader α} {absent : Except ReadError α}
    {short : Items → Except ReadError α} (hv : fields.lookup name = some v) (h : r.Takes v a) :
    (field name r absent short).Reads source fields a := by
  refine reads_field ?_
  rw [under, hv]
  exact h source

theorem reads_perhaps {r : Reader α} {f : α → Json} {o : Option α}
    (hv : fields.lookup name = o.map f)
    (h : ∀ a, o = some a → r.Takes (f a) a ∧ f a ≠ .null) :
    (perhaps name r).Reads source fields o := by
  cases o with
  | none =>
    refine reads_field ?_
    rw [under, hv]
    rfl
  | some a => exact reads_present hv (Reader.takes_some (h a rfl).1 (h a rfl).2)

theorem reads_double? {o : Option Float} (hv : fields.lookup name = o.map Json.double)
    (h : ∀ x, o = some x → (Number.double x).survives = true) :
    (perhaps name .double).Reads source fields o :=
  reads_perhaps hv fun x hx ↦ ⟨Reader.takes_double (h x hx), Reader.double_ne_null (h x hx)⟩

theorem reads_any? {o : Option Json} (hv : fields.lookup name = o)
    (h : ∀ v, o = some v → v.inOrder = true) :
    (perhaps name .any).Reads source fields (o.filter fun v ↦ !v.isNull) := by
  cases o with
  | none =>
    refine reads_field ?_
    rw [under, hv]
    rfl
  | some v => exact reads_present hv (Reader.takes_any? h)

theorem takes_reader {r : Record α} (h : ∀ source, r.Reads source (Fields.ofList entries) a)
    (name : String) : (r.reader name).Takes (ofEntries entries) a :=
  fun source ↦ (h source).reader (rising_ofList entries).nodup name

theorem setAside_draft (h : v.inOrder = true) : Reader.setAside v.draft = .ok v.draft := by
  rw [Reader.setAside, value_draft h]
  rfl

theorem takes_readerWith {r : Record α} (h : ∀ source, r.Reads source fields a)
    (hfields : (object fields).inOrder = true) {inner : List (String × Draft) → Except ReadError β}
    (hinner : inner (draftFields (fields.filter fun f ↦ (r.checks.lookup f.1).isNone)) = .ok b)
    (name : String) (combine : α → β → γ) :
    (r.readerWith name inner combine).Takes (.object fields) (combine a b) := by
  intro source
  obtain ⟨hrising, hvalues⟩ := inOrder_object.mp hfields
  have hothers : ∀ f ∈ fields, (Reader.setAside f.2.draft).map (fun _ ↦ ()) = .ok () := by
    intro f hf
    rw [setAside_draft (hvalues f hf)]
    rfl
  obtain ⟨kept, hscan, hread⟩ := (h source).scan hrising.nodup
    (fun d ↦ (Reader.setAside d).map fun _ ↦ ()) hothers
  rw [← filter_draftFields fun key ↦ (r.checks.lookup key).isNone] at hinner
  rw [draft]
  simp only [readerWith, hscan, hread]
  exact congrArg (Except.map (combine a)) hinner

end Record

namespace Reader

variable {α : Type} {fields : Fields} {a : α} {tag name : String}

theorem scanTagged_chosen {variants : List (String × α)} {source : Source}
    (hfields : ∀ f ∈ fields, f.2.inOrder = true) (htag : tag ∉ fields.map Prod.fst) :
    scanTagged tag variants source none (some a) (draftFields fields) = .ok a := by
  induction fields with
  | nil => rfl
  | cons f rest ih =>
    obtain ⟨hf, hrest⟩ := List.forall_mem_cons.mp hfields
    rw [List.map_cons, List.mem_cons, not_or] at htag
    rw [draftFields, scanTagged, if_neg (Ne.symm htag.1), Record.setAside_draft hf]
    exact ih hrest htag.2

theorem scanTagged_of_lookup {variants : List (String × α)} {source : Source} {choice : String}
    (hd : (fields.map Prod.fst).Nodup) (hfields : ∀ f ∈ fields, f.2.inOrder = true)
    (htag : fields.lookup tag = some (.text choice)) (hchoice : variants.lookup choice = some a) :
    scanTagged tag variants source none none (draftFields fields) = .ok a := by
  induction fields with
  | nil => cases htag
  | cons f rest ih =>
    obtain ⟨key, v⟩ := f
    obtain ⟨hf, hrest⟩ := List.forall_mem_cons.mp hfields
    rw [List.map_cons, List.nodup_cons] at hd
    by_cases hkey : key = tag
    · subst hkey
      obtain rfl : v = .text choice := by simpa using htag
      have hvariant : variantName variants source (draft (.text choice)) = .ok a := by
        simp [draft, variantName, named, hchoice]
      rw [draftFields, scanTagged, if_pos rfl, hvariant]
      exact scanTagged_chosen hrest hd.1
    · rw [lookup_cons_of_ne (Ne.symm hkey)] at htag
      rw [draftFields, scanTagged, if_neg hkey, Record.setAside_draft hf]
      exact ih hd.2 hrest htag

theorem takes_tagged {variants : List (String × Reader α)} {record : Record α} {title : String}
    (choice : String) {entries : Fields} (hordered : (ofEntries entries).inOrder = true)
    (htag : (Fields.ofList entries).lookup tag = some (.text choice))
    (hchoice : variants.lookup choice = some (record.reader title))
    (h : ∀ source fields, (∀ name, name ≠ tag →
      fields.lookup name = (Fields.ofList entries).lookup name) → record.Reads source fields a) :
    (tagged tag name variants).Takes (ofEntries entries) a := by
  intro source
  obtain ⟨hrising, hvalues⟩ := inOrder_object.mp hordered
  have hscan : scanTagged tag variants source none none (draftFields (Fields.ofList entries)) =
      .ok (record.reader title) :=
    scanTagged_of_lookup hrising.nodup hvalues htag hchoice
  -- the tag is no field of the record, which is read of what is left
  have hreads : record.Reads .aside ((Fields.ofList entries).filter fun f ↦ f.1 ≠ tag) a := by
    refine h .aside _ fun name hname ↦ ?_
    rw [lookup_filter fun key ↦ decide (key ≠ tag), if_pos (decide_eq_true hname)]
  have hread := hreads.reader (hrising.filter _).nodup title
  rw [draft, ← filter_draftFields fun key ↦ decide (key ≠ tag)] at hread
  rw [ofEntries, draft]
  simp only [tagged, hscan]
  exact hread

end Reader

end FleetControl.Json
