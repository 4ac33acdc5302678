import FleetControl.Proofs.Web.Percent
import FleetControl.Web.Url

namespace FleetControl.Web

def IsInner (special : Bool) (c : Char) : Prop :=
  c ≠ '/' ∧ c ≠ '?' ∧ c ≠ '#' ∧ (special = true → c ≠ '\\')

instance (special : Bool) (c : Char) : Decidable (IsInner special c) :=
  inferInstanceAs (Decidable (_ ∧ _))

/-- Whether a segment is one piece, however the path that it is in is read. -/
def Closed (special : Bool) (segment : String) : Prop :=
  ∀ c ∈ segment.toList, IsInner special c

variable {special : Bool} {set cs : List Char} {segment name : String} {parts : List String}

theorem isInner_of_percentAlphabet {c : Char} (h : c ∈ percentAlphabet) : IsInner special c := by
  have hall : ∀ special, (percentAlphabet.all fun c ↦ decide (IsInner special c)) = true := by
    decide
  simpa using List.all_eq_true.mp (hall special) c h

theorem closed_percentEncode (h : ∀ c ∈ cs, c ∉ set → IsInner special c) :
    Closed special (String.ofList (percentEncode set cs)) := by
  intro c hc
  rw [String.toList_ofList] at hc
  rcases mem_percentEncode hc with hc | ⟨hc, hset⟩
  · exact isInner_of_percentAlphabet hc
  · exact h c hc hset

namespace Url

theorem mem_splitAt {mark : Char} {part : List Char} (h : part ∈ splitAt mark cs) :
    mark ∉ part ∧ ∀ c ∈ part, c ∈ cs := by
  unfold splitAt at h
  induction cs generalizing part with
  | nil => simp_all
  | cons c cs ih =>
    rw [List.splitOn_cons_eq_if_modifyHead] at h
    split at h
    · rcases List.mem_cons.mp h with rfl | h
      · simp
      · exact ⟨(ih h).1, fun d hd ↦ List.mem_cons_of_mem _ ((ih h).2 d hd)⟩
    · rename_i hc
      cases hrest : cs.splitOn mark with
      | nil => simp [hrest] at h
      | cons first rest =>
        rw [hrest, List.modifyHead_cons, List.mem_cons] at h
        rcases h with rfl | h
        · obtain ⟨hm, hsub⟩ := ih (hrest ▸ List.mem_cons_self)
          have hne : mark ≠ c := by
            rintro rfl
            simp at hc
          exact ⟨List.not_mem_cons_of_ne_of_not_mem hne hm, List.forall_mem_cons.mpr
            ⟨List.mem_cons_self, fun d hd ↦ List.mem_cons_of_mem _ (hsub d hd)⟩⟩
        · obtain ⟨hm, hsub⟩ := ih (hrest ▸ List.mem_cons_of_mem _ h)
          exact ⟨hm, fun d hd ↦ List.mem_cons_of_mem _ (hsub d hd)⟩

theorem mem_pathParts {part : List Char} (h : part ∈ pathParts special cs) :
    ∀ c ∈ part, c ∉ pathSet → IsInner special c := by
  obtain ⟨hslash, hsub⟩ := mem_splitAt h
  intro c hc hset
  refine ⟨fun he ↦ hslash (he ▸ hc), ?_, ?_, ?_⟩
  · rintro rfl
    exact hset (by decide)
  · rintro rfl
    exact hset (by decide)
  · rintro rfl rfl
    have hmem := hsub _ hc
    simp only [if_true, List.mem_map] at hmem
    obtain ⟨d, -, hd⟩ := hmem
    split at hd
    · cases hd
    · simp_all

theorem closed_resolve {texts : List (List Char)} (done : List String)
    (hdone : ∀ s ∈ done, Closed special s)
    (htexts : ∀ text ∈ texts, ∀ c ∈ text, c ∉ pathSet → IsInner special c) :
    ∀ s ∈ resolve done texts, Closed special s := by
  have hempty : Closed special "" := by simp [Closed]
  have hended {done : List String} (h : ∀ s ∈ done, Closed special s) (last : Bool) :
      ∀ s ∈ (if last then done ++ [""] else done), Closed special s := by
    cases last with
    | true => simpa [or_imp, forall_and, hempty] using h
    | false => simpa using h
  induction texts generalizing done with
  | nil => exact hdone
  | cons text texts ih =>
    rw [List.forall_mem_cons] at htexts
    unfold resolve
    dsimp only
    split
    · exact ih _ (hended (fun s hs ↦ hdone s (List.dropLast_subset _ hs)) _) htexts.2
    · split
      · exact ih _ (hended hdone _) htexts.2
      · refine ih _ ?_ htexts.2
        intro s hs
        rcases List.mem_append.mp hs with hs | hs
        · exact hdone s hs
        · exact List.mem_singleton.mp hs ▸ closed_percentEncode htexts.1

theorem closed_segmentsOf (special : Bool) (cs : List Char) :
    ∀ s ∈ segmentsOf special cs, Closed special s :=
  closed_resolve [] (by simp) fun _ h ↦ mem_pathParts h

def Segmented (url : Url) : Prop :=
  ∀ parts, url.path = .segments parts → ∀ s ∈ parts, Closed (isSpecial url.scheme) s

theorem segmented_afterAuthority (url : Url) (cs : List Char) : (url.afterAuthority cs).Segmented := by
  have hempty : Closed (isSpecial url.scheme) "" := by simp [Closed]
  intro parts h
  simp only [afterAuthority, Path.segments.injEq] at h
  subst h
  change ∀ s ∈ _, Closed (isSpecial url.scheme) s
  split
  · split <;> simp [hempty]
  · split <;> exact closed_segmentsOf _ _

theorem segmented_of_readAuthority {scheme : String} {url : Url}
    (h : readAuthority scheme cs = .ok url) : url.Segmented := by
  unfold readAuthority at h
  dsimp only at h
  -- with a user and without one
  split at h
  all_goals
    split at h
    · cases h
    · split at h
      · cases h
      · cases h
      · rw [← Except.ok.inj h]
        exact segmented_afterAuthority _ _

theorem segmented_of_readFile {url : Url} (h : readFile cs = .ok url) : url.Segmented := by
  unfold readFile at h
  dsimp only at h
  split at h
  · split at h
    · split at h
      · rw [← Except.ok.inj h]
        exact segmented_afterAuthority _ _
      · split at h
        · cases h
        · rw [← Except.ok.inj h]
          exact segmented_afterAuthority _ _
        · rw [← Except.ok.inj h]
          exact segmented_afterAuthority _ _
    · rw [← Except.ok.inj h]
      exact segmented_afterAuthority _ _
  · rw [← Except.ok.inj h]
    exact segmented_afterAuthority _ _

theorem segmented_of_readAfterScheme {scheme : String} {url : Url}
    (h : readAfterScheme scheme cs = .ok url) : url.Segmented := by
  unfold readAfterScheme at h
  split at h
  · exact segmented_of_readFile h
  · split at h
    · exact segmented_of_readAuthority h
    · rename_i hspecial
      split at h
      · exact segmented_of_readAuthority h
      · obtain rfl := Except.ok.inj h
        intro parts hparts
        have hs : isSpecial scheme = false := by simpa using hspecial
        change Path.segments _ = Path.segments parts at hparts
        rw [← Path.segments.inj hparts]
        change ∀ s ∈ _, Closed (isSpecial scheme) s
        rw [hs]
        exact closed_segmentsOf false _
      · obtain rfl := Except.ok.inj h
        intro parts hparts
        cases hparts

theorem segmented_of_parse {text : String} {url : Url} (h : parse text = .ok url) :
    url.Segmented := by
  unfold parse at h
  dsimp only at h
  split at h
  · cases h
  · exact segmented_of_readAfterScheme h

/-- A name that is added as one segment: it is not one of the two steps, and nothing in it is
dropped. -/
structure Plain (name : String) : Prop where
  nonempty : name ≠ ""
  dot : name ≠ "."
  dots : name ≠ ".."
  kept : name.toList.any isDropped = false

instance (name : String) : Decidable (Plain name) :=
  decidable_of_iff
    (name ≠ "" ∧ name ≠ "." ∧ name ≠ ".." ∧ name.toList.any isDropped = false)
    ⟨fun h ↦ ⟨h.1, h.2.1, h.2.2.1, h.2.2.2⟩, fun h ↦ ⟨h.nonempty, h.dot, h.dots, h.kept⟩⟩

def encodeSegment (special : Bool) (name : String) : String :=
  String.ofList (percentEncode (if special then specialSegmentSet else segmentSet) name.toList)

theorem decode?_encodeSegment (special : Bool) (name : String) :
    Text.decode? (percentDecode (encodeSegment special name).toList) = some name := by
  rw [encodeSegment, String.toList_ofList]
  exact decode?_percentEncode (by cases special <;> decide) name

theorem encodeSegment_injective (special : Bool) : Function.Injective (encodeSegment special) := by
  intro name name' h
  have hdecoded := decode?_encodeSegment special name
  rw [h, decode?_encodeSegment] at hdecoded
  exact (Option.some.inj hdecoded).symm

theorem encodeSegment_empty (special : Bool) : encodeSegment special "" = "" := by
  cases special <;> rfl

theorem closed_encodeSegment (special : Bool) (name : String) :
    Closed special (encodeSegment special name) := by
  refine closed_percentEncode fun c _ hset ↦ ⟨?_, ?_, ?_, ?_⟩
  · rintro rfl
    cases special <;> exact hset (by decide)
  · rintro rfl
    cases special <;> exact hset (by decide)
  · rintro rfl
    cases special <;> exact hset (by decide)
  · rintro rfl rfl
    exact hset (by decide)

theorem encodeSegment_no_step (special : Bool) (hdot : name ≠ ".") (hdots : name ≠ "..") :
    resolve.isDot (encodeSegment special name) = false ∧
      resolve.isDoubleDot (encodeSegment special name) = false := by
  have hdecoded := decode?_encodeSegment special name
  have hread (steps : List String) (step : String)
      (hsteps : ∀ s ∈ steps, Text.decode? (percentDecode s.toList) = some step) (hne : name ≠ step) :
      steps.contains (encodeSegment special name) = false := by
    rw [Bool.eq_false_iff, List.contains_eq_mem, ne_eq, decide_eq_true_eq]
    intro hm
    exact hne (Option.some.inj (hdecoded.symm.trans (hsteps _ hm)))
  exact ⟨hread _ "." (by decide) hdot, hread _ ".." (by decide) hdots⟩

/-- A segment that a name is written as: it reads back as the name, it is in one piece, and it is no
step in a path. -/
structure Holds (special : Bool) (segment name : String) : Prop where
  decoded : Text.decode? (percentDecode segment.toList) = some name
  closed : Closed special segment
  dot : resolve.isDot segment = false
  dots : resolve.isDoubleDot segment = false

theorem holds_encodeSegment (special : Bool) (h : Plain name) :
    Holds special (encodeSegment special name) name := by
  obtain ⟨hdot, hdots⟩ := encodeSegment_no_step special h.dot h.dots
  exact ⟨decode?_encodeSegment special name, closed_encodeSegment special name, hdot, hdots⟩

theorem addSegment_plain (special : Bool) (h : Plain name) (before : List String) :
    addSegment special before name =
      (if before = [""] then [] else before) ++ [encodeSegment special name] := by
  have hkept : name.toList.filter (!isDropped ·) = name.toList :=
    List.filter_eq_self.mpr fun c hc ↦ by simpa using List.any_eq_false.mp h.kept c hc
  obtain ⟨hdot, hdots⟩ := encodeSegment_no_step special h.dot h.dots
  have hne : encodeSegment special name ≠ "." ∧ encodeSegment special name ≠ ".." := by
    constructor <;> intro he <;> simp [he, resolve.isDot, resolve.isDoubleDot] at hdot hdots
  unfold addSegment
  rw [if_neg (by simp [h.dot, h.dots]), hkept]
  dsimp only
  rw [← encodeSegment, if_neg hne.2, if_neg hne.1]

theorem append_encodeSegment_ne (special : Bool) (h : Plain name) (before : List String) :
    before ++ [encodeSegment special name] ≠ [""] := by
  have hname : encodeSegment special name ≠ "" := fun he ↦
    h.nonempty (encodeSegment_injective special (he.trans (encodeSegment_empty special).symm))
  simp [List.append_eq_singleton_iff, hname]

theorem foldl_addSegment (special : Bool) {names : List String} (h : ∀ name ∈ names, Plain name)
    {before : List String} (hb : before ≠ [""]) :
    names.foldl (addSegment special) before = before ++ names.map (encodeSegment special) := by
  induction names generalizing before with
  | nil => simp
  | cons name names ih =>
    rw [List.forall_mem_cons] at h
    rw [List.foldl_cons, addSegment_plain special h.1, if_neg hb,
      ih h.2 (append_encodeSegment_ne special h.1 before), List.map_cons,
      List.append_assoc, List.singleton_append]

/-- The segments of a base without an empty one at the end. A path of one empty segment counts as
empty, so of two empty ones nothing is left. -/
def trunk (parts : List String) : List String :=
  let kept := if parts.getLast? = some "" then parts.dropLast else parts
  if kept = [""] then [] else kept

theorem trunk_eq (parts : List String) :
    trunk parts = if dropEmptyEnd parts = [""] then [] else dropEmptyEnd parts := by
  unfold trunk dropEmptyEnd
  dsimp only
  by_cases hlast : parts.getLast? = some ""
  · by_cases hlength : parts.length ≥ 2
    · simp [hlast, hlength]
    · obtain ⟨s, rfl⟩ : ∃ s, parts = [s] := by
        refine List.length_eq_one_iff.mp ?_
        have hpos : parts ≠ [] := by
          rintro rfl
          cases hlast
        have := List.length_pos_iff.mpr hpos
        omega
      simp_all
  · simp [hlast]

theorem foldl_addSegment_trunk (special : Bool) {names : List String}
    (h : ∀ name ∈ names, Plain name) (hn : names ≠ []) (parts : List String) :
    names.foldl (addSegment special) (dropEmptyEnd parts) =
      trunk parts ++ names.map (encodeSegment special) := by
  cases names with
  | nil => exact absurd rfl hn
  | cons name names =>
    rw [List.forall_mem_cons] at h
    rw [List.foldl_cons, addSegment_plain special h.1, ← trunk_eq,
      foldl_addSegment special h.2 (append_encodeSegment_ne special h.1 _), List.map_cons,
      List.append_assoc, List.singleton_append]

theorem mem_of_mem_trunk {s : String} (h : s ∈ trunk parts) : s ∈ parts := by
  rw [trunk_eq] at h
  split at h
  · cases h
  · unfold dropEmptyEnd at h
    split at h
    · exact List.dropLast_subset _ h
    · exact h

theorem toList_pathText {url : Url} (h : url.path = .segments parts) :
    url.pathText.toList = parts.flatMap fun s ↦ '/' :: s.toList := by
  simp only [pathText, h, String.toList_join, List.flatMap_map, String.toList_append]
  rfl

theorem splitAt_flatMap {before : List Char} (hb : '/' ∉ before)
    (h : ∀ s ∈ parts, '/' ∉ s.toList) :
    splitAt '/' (before ++ parts.flatMap fun s ↦ '/' :: s.toList) =
      before :: parts.map String.toList := by
  unfold splitAt
  induction parts generalizing before with
  | nil => simpa using List.splitOn_eq_singleton hb
  | cons s parts ih =>
    rw [List.forall_mem_cons] at h
    rw [List.flatMap_cons, List.cons_append, List.splitOn_append_cons_self_of_not_mem hb, ih h.1 h.2]
    rfl

/-- The text of a path gives its segments back. -/
theorem splitAt_pathText {url : Url} (h : url.path = .segments parts)
    (hclosed : ∀ s ∈ parts, Closed special s) :
    splitAt '/' url.pathText.toList = [] :: parts.map String.toList := by
  rw [toList_pathText h, ← List.nil_append (parts.flatMap _)]
  exact splitAt_flatMap (by simp) fun s hs hslash ↦ (hclosed s hs '/' hslash).1 rfl

theorem isPath_of_mem_pathText {url : Url} (h : url.path = .segments parts)
    (hclosed : ∀ s ∈ parts, Closed special s) {c : Char} (hc : c ∈ url.pathText.toList) :
    c ≠ '?' ∧ c ≠ '#' ∧ (special = true → c ≠ '\\') := by
  rw [toList_pathText h, List.mem_flatMap] at hc
  obtain ⟨s, hs, hc⟩ := hc
  rcases List.mem_cons.mp hc with rfl | hc
  · simp
  · exact (hclosed s hs c hc).2

end Url

end FleetControl.Web
