import FleetControl.Proofs.Json.Tree

namespace FleetControl.Json

variable {v : Json} {k : ℕ}

mutual

def spelling : Json → List Token
  | .null => [.literal .null]
  | .bool b => [.literal (.bool b)]
  | .number n => [.literal (.number n)]
  | .text s => [.literal (.text s)]
  | .list items => .openList :: ([Token.comma].intercalate (itemSpellings items) ++ [.closeList])
  | .object fields =>
    .openObject :: ([Token.comma].intercalate (fieldSpellings fields) ++ [.closeObject])

def itemSpellings : List Json → List (List Token)
  | [] => []
  | item :: rest => spelling item :: itemSpellings rest

def fieldSpellings : List (String × Json) → List (List Token)
  | [] => []
  | (key, value) :: rest =>
    (.literal (.text key) :: .colon :: spelling value) :: fieldSpellings rest

end

theorem intercalate_cons {α : Type} (separator first : List α) (rest : List (List α)) :
    separator.intercalate (first :: rest) = first ++ rest.flatMap (separator ++ ·) := by
  induction rest generalizing first with
  | nil => simp
  | cons second rest ih => rw [List.intercalate_cons_cons, ih, List.flatMap_cons]; simp

theorem itemSpellings_eq (items : List Json) : itemSpellings items = items.map spelling := by
  induction items with
  | nil => rfl
  | cons v rest ih => rw [itemSpellings, ih, List.map_cons]

theorem fieldSpellings_eq (fields : Fields) : fieldSpellings fields =
    fields.map fun f ↦ .literal (.text f.1) :: .colon :: spelling f.2 := by
  induction fields with
  | nil => rfl
  | cons f rest ih => rw [fieldSpellings, ih, List.map_cons]

namespace Draft

variable {expected : Expected} {stack outer : List Frame} {frame : Frame} {d : Draft}
  {ts : List Token}

def Progress.resume : Progress → List Token → Document
  | .inside expected stack, ts => readOn expected stack ts
  | .complete root, ts => ⟨root, !ts.isEmpty⟩
  | .stopped root, _ => ⟨root, false⟩

theorem readOn_cons (expected : Expected) (stack : List Frame) (t : Token) (ts : List Token) :
    readOn expected stack (t :: ts) = (step expected stack t).resume ts := by
  rw [readOn]
  cases step expected stack t <;> rfl

def Expected.isValue : Expected → Bool
  | .value | .item | .nextItem => true
  | _ => false

theorem readOn_literal (he : expected.isValue = true) {l : Literal}
    (hl : ∀ b kind, l ≠ .broken b kind) (ts : List Token) :
    readOn expected stack (.literal l :: ts) = (place (ofLiteral l) stack).resume ts := by
  have hvalue : onValue (.literal l) (.same .expectedValue) stack = place (ofLiteral l) stack := by
    cases l with
    | broken b kind => exact absurd rfl (hl b kind)
    | _ => rfl
  rw [readOn_cons]
  refine congrArg (Progress.resume · ts) ?_
  cases expected with
  | value | item | nextItem => exact hvalue
  | _ => cases he

theorem step_openList (he : expected.isValue = true) :
    step expected stack .openList = .inside .item (.list [] :: stack) := by
  cases expected with
  | value | item | nextItem => rfl
  | _ => cases he

theorem step_openObject (he : expected.isValue = true) :
    step expected stack .openObject = .inside .key (.object [] "" :: stack) := by
  cases expected with
  | value | item | nextItem => rfl
  | _ => cases he

theorem nest_of_length_lt (h : outer.length < 127) (d : Draft) : Frame.close.nest outer d = d := by
  refine if_pos ?_
  rw [List.isEmpty_iff, List.drop_eq_nil_iff]
  exact Nat.le_of_lt_succ h

/-- A value whose tokens are read as its draft wherever it may stand within `k` containers. -/
def ReadBack (k : ℕ) (v : Json) : Prop :=
  ∀ expected stack ts, expected.isValue = true → stack.length + k ≤ 127 →
    readOn expected stack (v.spelling ++ ts) = (place v.draft stack).resume ts

theorem readOn_items {items : List Json} (hitems : ∀ v ∈ items, ReadBack k v)
    (hstack : stack.length + (k + 1) ≤ 127) (before : List Draft) (ts : List Token) :
    readOn .separator (.list before :: stack)
        ((items.map spelling).flatMap ([Token.comma] ++ ·) ++ .closeList :: ts) =
      (place (.list (before.reverse ++ items.map draft) none) stack).resume ts := by
  induction items generalizing before with
  | nil =>
    have hclose : Frame.close stack none (.list before) = .list before.reverse none :=
      nest_of_length_lt (by omega) _
    have hstep : step .separator (.list before :: stack) .closeList =
        place (.list before.reverse none) stack := congrArg (place · stack) hclose
    rw [List.map_nil, List.flatMap_nil, List.nil_append, readOn_cons, hstep, List.map_nil,
      List.append_nil]
  | cons v rest ih =>
    obtain ⟨hv, hrest⟩ := List.forall_mem_cons.mp hitems
    have hread := hv .nextItem (.list before :: stack)
      ((rest.map spelling).flatMap ([Token.comma] ++ ·) ++ .closeList :: ts) rfl (by simp; omega)
    rw [List.map_cons, List.flatMap_cons, List.append_assoc, List.append_assoc]
    refine hread.trans ((ih hrest (v.draft :: before)).trans ?_)
    simp

theorem readOn_entry {entries : List (String × Draft)} (name : String) {key : String}
    (he : expected = .key ∨ expected = .nextKey) (hv : ReadBack k v)
    (hstack : stack.length + (k + 1) ≤ 127) (ts : List Token) :
    readOn expected (.object entries name :: stack)
        (.literal (.text key) :: .colon :: (v.spelling ++ ts)) =
      readOn .separator (.object ((key, v.draft) :: entries) key :: stack) ts := by
  have hkey : step expected (.object entries name :: stack) (.literal (.text key)) =
      .inside .colon (.object entries key :: stack) := by
    rcases he with rfl | rfl <;> rfl
  rw [readOn_cons, hkey]
  exact hv .value (.object entries key :: stack) ts rfl (by simp; omega)

theorem readOn_fields {fields : Fields} (hfields : ∀ f ∈ fields, ReadBack k f.2)
    (hstack : stack.length + (k + 1) ≤ 127) (before : List (String × Draft)) (name : String)
    (ts : List Token) :
    readOn .separator (.object before name :: stack)
        ((fieldSpellings fields).flatMap ([Token.comma] ++ ·) ++ .closeObject :: ts) =
      (place (.object (before.reverse ++ fields.map fun f ↦ (f.1, f.2.draft)) none) stack).resume
        ts := by
  induction fields generalizing before name with
  | nil =>
    have hclose : Frame.close stack none (.object before name) = .object before.reverse none :=
      nest_of_length_lt (by omega) _
    have hstep : step .separator (.object before name :: stack) .closeObject =
        place (.object before.reverse none) stack := congrArg (place · stack) hclose
    rw [fieldSpellings, List.flatMap_nil, List.nil_append, readOn_cons, hstep, List.map_nil,
      List.append_nil]
  | cons f rest ih =>
    obtain ⟨hf, hrest⟩ := List.forall_mem_cons.mp hfields
    rw [fieldSpellings, List.flatMap_cons, List.append_assoc, List.append_assoc]
    refine (readOn_entry name (Or.inr rfl) hf hstack _).trans ?_
    refine (ih hrest ((f.1, f.2.draft) :: before) f.1).trans ?_
    simp

theorem readBack (h : v.within k = true) : ReadBack k v := by
  induction v using Json.ind generalizing k with
  | null => exact fun _ _ ts he _ ↦ readOn_literal (l := .null) he (by simp) ts
  | bool b => exact fun _ _ ts he _ ↦ readOn_literal (l := .bool b) he (by simp) ts
  | number n => exact fun _ _ ts he _ ↦ readOn_literal (l := .number n) he (by simp) ts
  | text s => exact fun _ _ ts he _ ↦ readOn_literal (l := .text s) he (by simp) ts
  | list items ih =>
    intro expected stack ts he hstack
    cases k with
    | zero => cases h
    | succ k =>
      have hitems : ∀ v ∈ items, ReadBack k v := by
        rw [Json.within, List.all_eq_true] at h
        exact fun v hv ↦ ih v hv (h v hv)
      rw [spelling, List.cons_append, readOn_cons, step_openList he, itemSpellings_eq, draft,
        draftItems_eq, List.append_assoc]
      cases items with
      | nil => exact readOn_items hitems hstack [] ts
      | cons v rest =>
        obtain ⟨hv, hrest⟩ := List.forall_mem_cons.mp hitems
        -- the first item stands behind the bracket, each other one behind a comma
        rw [List.map_cons, intercalate_cons, List.append_assoc]
        refine (hv .item (.list [] :: stack) _ rfl (by simp; omega)).trans ?_
        exact readOn_items hrest hstack [v.draft] ts
  | object fields ih =>
    intro expected stack ts he hstack
    cases k with
    | zero => cases h
    | succ k =>
      have hfields : ∀ f ∈ fields, ReadBack k f.2 := by
        rw [Json.within, List.all_eq_true] at h
        exact fun f hf ↦ ih f hf (h f hf)
      rw [spelling, List.cons_append, readOn_cons, step_openObject he, draft, draftFields_eq,
        List.append_assoc]
      cases fields with
      | nil => exact readOn_fields hfields hstack [] "" ts
      | cons f rest =>
        obtain ⟨hf, hrest⟩ := List.forall_mem_cons.mp hfields
        rw [fieldSpellings, intercalate_cons, List.append_assoc]
        refine (readOn_entry "" (Or.inl rfl) hf hstack _).trans ?_
        exact readOn_fields hrest hstack [(f.1, f.2.draft)] f.1 ts

def Frame.parts : Frame → List Draft
  | .list items => items
  | .object entries _ => entries.map Prod.snd

/-- What is said of the drafts within so many containers, and passes from the parts of a container to
the container. -/
structure Passes (P : ℕ → Draft → Prop) : Prop where
  literal : ∀ k l, P (k + 1) (ofLiteral l)
  close : ∀ frame outer fault, (∀ d ∈ Frame.parts frame, P (outer.length + 1) d) →
    P outer.length (frame.close outer fault)

def Holds (P : ℕ → Draft → Prop) : List Frame → Prop
  | [] => True
  | frame :: outer => (∀ d ∈ frame.parts, P (outer.length + 1) d) ∧ Holds P outer

def Progress.Holds (P : ℕ → Draft → Prop) : Progress → Prop
  | .inside _ stack => stack ≠ [] ∧ Draft.Holds P stack
  | .complete root => P 0 root
  | .stopped root => P 0 root

variable {P : ℕ → Draft → Prop} {b : Broken}

theorem parts_push (d : Draft) (frame : Frame) : (frame.push d).parts = d :: frame.parts := by
  cases frame <;> rfl

theorem Passes.push (hd : P (outer.length + 1) d) (h : ∀ d ∈ frame.parts, P (outer.length + 1) d) :
    ∀ e ∈ (frame.push d).parts, P (outer.length + 1) e := by
  rw [parts_push]
  exact List.forall_mem_cons.mpr ⟨hd, h⟩

theorem Passes.place (hd : P stack.length d) (h : Holds P stack) : (place d stack).Holds P := by
  cases stack with
  | nil => exact hd
  | cons frame outer => exact ⟨List.cons_ne_nil _ _, Passes.push hd h.1, h.2⟩

theorem Passes.abandon (hp : Passes P) (hd : P stack.length d) (h : Holds P stack) :
    P 0 (abandon b d stack) := by
  induction stack generalizing d with
  | nil => exact hd
  | cons frame outer ih => exact ih (hp.close _ _ _ (Passes.push hd h.1)) h.2

theorem Passes.stop (hp : Passes P) (hstack : stack ≠ []) (h : Holds P stack) :
    P 0 (stop b stack) := by
  cases stack with
  | nil => exact absurd rfl hstack
  | cons frame outer => exact hp.abandon (hp.close _ _ _ h.1) h.2

theorem Passes.onClose (hp : Passes P) (hstack : stack ≠ []) (h : Holds P stack) :
    (onClose stack).Holds P := by
  cases stack with
  | nil => exact absurd rfl hstack
  | cons frame outer => exact Passes.place (hp.close _ _ _ h.1) h.2

theorem Passes.at_literal (hp : Passes P) (hstack : stack ≠ []) (l : Literal) :
    P stack.length (ofLiteral l) := by
  cases stack with
  | nil => exact absurd rfl hstack
  | cons frame outer => exact hp.literal _ l

theorem Passes.onValue (hp : Passes P) (hstack : stack ≠ []) (h : Holds P stack) (token : Token) :
    (onValue token b stack).Holds P := by
  have hstop : ∀ f : Broken, P 0 (Draft.abandon f (.broken f .nothing) stack) :=
    fun f ↦ hp.abandon (hp.at_literal hstack (.broken f .nothing)) h
  cases token with
  | openList => exact ⟨List.cons_ne_nil _ _, List.forall_mem_nil _, h⟩
  | openObject => exact ⟨List.cons_ne_nil _ _, List.forall_mem_nil _, h⟩
  | literal l =>
    have hl := hp.at_literal hstack l
    cases l with
    | broken f kind => exact hp.abandon hl h
    | _ => exact Passes.place hl h
  | _ => exact hstop b

theorem Passes.onKey (hp : Passes P) (hstack : stack ≠ []) (h : Holds P stack) (token : Token) :
    (onKey token b stack).Holds P := by
  unfold Draft.onKey
  split
  · exact ⟨List.cons_ne_nil _ _, h⟩
  all_goals exact hp.stop hstack h

theorem Passes.step (hp : Passes P) (hstack : stack ≠ []) (h : Holds P stack) (token : Token) :
    (step expected stack token).Holds P := by
  unfold Draft.step
  split
  case h_1 | h_3 | h_5 => exact hp.onValue hstack h token
  case h_2 | h_6 => exact hp.onClose hstack h
  case h_4 | h_8 | h_11 => exact hp.stop hstack h
  case h_7 | h_9 => exact hp.onKey hstack h token
  case h_10 => exact ⟨hstack, h⟩
  case h_12 =>
    split
    · exact ⟨List.cons_ne_nil _ _, h⟩
    · exact hp.onClose hstack h
    · exact hp.stop hstack h
    · exact ⟨List.cons_ne_nil _ _, h⟩
    · exact hp.onClose hstack h
    · exact hp.stop hstack h

theorem Passes.readOn (hp : Passes P) (hstack : stack ≠ []) (h : Holds P stack) (ts : List Token) :
    P 0 (readOn expected stack ts).root := by
  induction ts generalizing expected stack with
  | nil =>
    have hbroken (f : Broken) : P 0 (Draft.abandon f (.broken f .nothing) stack) :=
      hp.abandon (hp.at_literal hstack (.broken f .nothing)) h
    cases expected with
    | value | nextItem => exact hbroken _
    | _ => exact hp.stop hstack h
  | cons token rest ih =>
    have hstep : (Draft.step expected stack token).Holds P := hp.step hstack h token
    rw [readOn_cons]
    cases hs : Draft.step expected stack token with
    | inside expected stack =>
      rw [hs] at hstep
      exact ih hstep.1 hstep.2
    | complete root => rwa [hs] at hstep
    | stopped root => rwa [hs] at hstep

theorem Passes.opened (hp : Passes P) (h : frame.parts = []) (ts : List Token) :
    P 0 (Draft.readOn expected [frame] ts).root := by
  have hframe : Holds P [frame] := ⟨by rw [h]; exact List.forall_mem_nil _, trivial⟩
  exact hp.readOn (List.cons_ne_nil _ _) hframe ts

theorem within_literal (k : ℕ) (l : Literal) : (ofLiteral l).within k = true := by
  cases l <;> cases k <;> rfl

theorem passes_within : Passes fun m d ↦ d.within (127 - m) = true where
  literal k l := within_literal _ l
  close frame outer fault h := by
    by_cases hlength : outer.length < 127
    · have hk : 127 - outer.length = 127 - (outer.length + 1) + 1 := by omega
      rw [hk]
      cases frame with
      | list items =>
        rw [Frame.close, nest_of_length_lt hlength, Draft.within, List.all_reverse,
          List.all_eq_true]
        exact h
      | object entries key =>
        rw [Frame.close, nest_of_length_lt hlength, Draft.within, List.all_reverse,
          List.all_eq_true]
        exact fun e he ↦ h e.2 (List.mem_map_of_mem he)
    · have hdeep (d : Draft) : Frame.close.nest outer d = .deep d := by
        refine if_neg ?_
        rw [List.isEmpty_iff, List.drop_eq_nil_iff]
        exact hlength ∘ Nat.lt_succ_of_le
      have hk : 127 - outer.length = 0 := by omega
      rw [hk]
      cases frame with
      | list items => rw [Frame.close, hdeep]; rfl
      | object entries key => rw [Frame.close, hdeep]; rfl

/-- What is read of any text is nested no deeper than the bound. -/
theorem within_ofText (text : String) : (ofText text).root.within 127 = true := by
  unfold ofText
  cases tokens text with
  | nil => rfl
  | cons token rest =>
    rw [readOn_cons]
    cases token with
    | openList => exact passes_within.opened rfl rest
    | openObject => exact passes_within.opened rfl rest
    | literal l =>
      have hl := within_literal 127 l
      cases l <;> exact hl
    | _ => rfl

theorem passes_not_number (n : Number) : Passes fun m d ↦ m = 0 → d ≠ .number n where
  literal k l h := by cases h
  close frame outer fault _ _ := by
    cases frame with
    | list items => rw [Frame.close, Frame.close.nest]; split <;> simp
    | object entries key => rw [Frame.close, Frame.close.nest]; split <;> simp

theorem eq_of_value_number {n : Number} (h : d.value = .ok (.number n)) : d = .number n := by
  cases d with
  | number m => cases h; rfl
  | list ds fault =>
    obtain ⟨-, values, hlist, -⟩ := value_list.mp h
    cases hlist
  | object entries fault =>
    obtain ⟨-, values, hobject, -⟩ := value_object.mp h
    cases hobject
  | _ => cases h

theorem tokens_of_parse_number {text : String} {n : Number} (h : parse text = .ok (.number n)) :
    tokens text = [.literal (.number n)] := by
  have hroot : (ofText text).root = .number n ∧ (ofText text).surplus = false := by
    unfold parse at h
    cases hvalue : (ofText text).root.value with
    | error f => simp [hvalue] at h
    | ok v =>
      cases hsurplus : (ofText text).surplus with
      | true => simp [hvalue, hsurplus] at h
      | false =>
        have hv : v = .number n := by simpa [hvalue, hsurplus] using h
        exact ⟨eq_of_value_number (hv ▸ hvalue), rfl⟩
  unfold ofText at hroot
  revert hroot
  cases tokens text with
  | nil => exact fun hroot ↦ nomatch hroot.1
  | cons token rest =>
    intro hroot
    rw [readOn_cons] at hroot
    cases token with
    | openList => exact absurd hroot.1 ((passes_not_number n).opened rfl rest rfl)
    | openObject => exact absurd hroot.1 ((passes_not_number n).opened rfl rest rfl)
    | literal l =>
      cases l with
      | number m =>
        obtain ⟨hm, hrest⟩ := hroot
        cases hm
        cases rest with
        | nil => rfl
        | cons t ts => cases hrest
      | _ => cases hroot.1
    | _ => cases hroot.1

theorem readOn_spelling (h : v.within 127 = true) :
    readOn .value [] v.spelling = ⟨v.draft, false⟩ := by
  have hread := readBack h .value [] [] rfl (Nat.le_refl 127)
  rwa [List.append_nil] at hread

end Draft

theorem root_of_readText {α : Type} {r : Reader α} {text : String} {a : α}
    (h : readText r text = .ok a) : r .text (Draft.ofText text).root = .ok a := by
  unfold readText at h
  cases hroot : r .text (Draft.ofText text).root with
  | error e => simp [hroot] at h
  | ok b =>
    cases hsurplus : (Draft.ofText text).surplus with
    | true => simp [hroot, hsurplus] at h
    | false => simpa [hroot, hsurplus] using h

theorem root_of_parse {text : String} {v : Json} (h : parse text = .ok v) :
    (Draft.ofText text).root.value = .ok v := by
  unfold parse at h
  cases hvalue : (Draft.ofText text).root.value with
  | error f => simp [hvalue] at h
  | ok w =>
    cases hsurplus : (Draft.ofText text).surplus with
    | true => simp [hvalue, hsurplus] at h
    | false => simpa [hvalue, hsurplus] using h

end FleetControl.Json
