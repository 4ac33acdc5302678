import FleetControl.Telemetry.Stream
import Mathlib.Data.List.Induction
import Mathlib.Data.List.TakeDrop
import Mathlib.Data.Nat.Notation

namespace FleetControl.Telemetry

theorem splitOn_of_not_mem {bytes : List UInt8} (h : lineFeed ∉ bytes) :
    bytes.splitOn lineFeed = [bytes] :=
  List.splitOn_eq_singleton h

theorem splitOn_line {raw : List UInt8} (h : lineFeed ∉ raw) (bytes : List UInt8) :
    (raw ++ lineFeed :: bytes).splitOn lineFeed = raw :: bytes.splitOn lineFeed :=
  List.splitOn_append_cons_self_of_not_mem h bytes

theorem lines_induction {motive : List UInt8 → Prop}
    (tail : ∀ bytes, lineFeed ∉ bytes → motive bytes)
    (line : ∀ raw bytes, lineFeed ∉ raw → motive bytes → motive (raw ++ lineFeed :: bytes))
    (bytes : List UInt8) : motive bytes := by
  by_cases h : lineFeed ∈ bytes
  · obtain ⟨raw, rest, he, hraw⟩ := List.eq_append_cons_of_mem h
    rw [he]
    exact line raw rest hraw (lines_induction tail line rest)
  · exact tail bytes h
termination_by bytes.length
decreasing_by rw [he, List.length_append, List.length_cons]; omega

namespace Stream

def tail (bytes : List UInt8) : List UInt8 := (bytes.splitOn lineFeed).getLastD []

variable {raw bytes : List UInt8}

theorem lines_of_not_mem (h : lineFeed ∉ bytes) : lines bytes = [] := by
  simp [lines, splitOn_of_not_mem h]

theorem tail_of_not_mem (h : lineFeed ∉ bytes) : tail bytes = bytes := by
  simp [tail, splitOn_of_not_mem h]

theorem lines_line (h : lineFeed ∉ raw) (bytes : List UInt8) :
    lines (raw ++ lineFeed :: bytes) = raw :: lines bytes := by
  rw [lines, splitOn_line h, List.dropLast_cons_of_ne_nil (List.splitOn_ne_nil _ _), lines]

theorem tail_line (h : lineFeed ∉ raw) (bytes : List UInt8) :
    tail (raw ++ lineFeed :: bytes) = tail bytes := by
  rw [tail, splitOn_line h, tail]
  cases hs : bytes.splitOn lineFeed with
  | nil => exact absurd hs (List.splitOn_ne_nil _ _)
  | cons first rest => simp [List.getLastD]

theorem lineFeed_not_mem_tail (bytes : List UInt8) : lineFeed ∉ tail bytes := by
  induction bytes using lines_induction with
  | tail bytes h => rwa [tail_of_not_mem h]
  | line raw bytes h ih => rwa [tail_line h]

theorem splitOn_append (bytes more : List UInt8) :
    (bytes ++ more).splitOn lineFeed = lines bytes ++ (tail bytes ++ more).splitOn lineFeed := by
  induction bytes using lines_induction with
  | tail bytes h => rw [lines_of_not_mem h, tail_of_not_mem h, List.nil_append]
  | line raw bytes h ih =>
    rw [List.append_assoc, List.cons_append, splitOn_line h, ih, lines_line h, tail_line h,
      List.cons_append]

theorem lines_append (bytes more : List UInt8) :
    lines (bytes ++ more) = lines bytes ++ lines (tail bytes ++ more) := by
  rw [lines, splitOn_append, List.dropLast_append_of_ne_nil (List.splitOn_ne_nil _ _)]
  rfl

theorem tail_append (bytes more : List UInt8) : tail (bytes ++ more) = tail (tail bytes ++ more) := by
  induction bytes using lines_induction with
  | tail bytes h => rw [tail_of_not_mem h]
  | line raw bytes h ih =>
    rw [List.append_assoc, List.cons_append, tail_line h, tail_line h, ih]

theorem length_lines (bytes : List UInt8) : (lines bytes).length = bytes.count lineFeed := by
  induction bytes using lines_induction with
  | tail bytes h => rw [lines_of_not_mem h, List.count_eq_zero.mpr h, List.length_nil]
  | line raw bytes h ih =>
    rw [lines_line h, List.length_cons, ih, List.count_append, List.count_cons_self,
      List.count_eq_zero.mpr h, Nat.zero_add]

theorem splitOn_eq (bytes : List UInt8) :
    bytes.splitOn lineFeed = lines bytes ++ [tail bytes] := by
  simpa [splitOn_of_not_mem (lineFeed_not_mem_tail bytes)] using splitOn_append bytes []

end Stream

theorem lineOf_reverse (raw : List UInt8) : Decoder.lineOf raw.reverse = Stream.trimmed raw := by
  induction raw using List.reverseRecOn with
  | nil => rfl
  | append_singleton before last =>
    rw [List.reverse_append, List.reverse_singleton, List.singleton_append]
    simp [Decoder.lineOf, Stream.trimmed]

theorem length_trimmed_le (raw : List UInt8) : (Stream.trimmed raw).length ≤ raw.length := by
  unfold Stream.trimmed
  split
  · simp
  · exact Nat.le_refl _

theorem dropWhile_colon (cs : List Char) :
    cs.dropWhile (· != ':') = [] ∨ ∃ value, cs.dropWhile (· != ':') = ':' :: value := by
  induction cs with
  | nil => exact Or.inl rfl
  | cons c cs ih =>
    by_cases hc : c = ':'
    · exact Or.inr ⟨cs, by simp [hc]⟩
    · rwa [List.dropWhile_cons_of_pos (by simpa using hc)]

theorem dataValue?_eq (cs : List Char) :
    Stream.dataValue? cs =
      if cs.takeWhile (· != ':') = "data".toList then
        some (String.ofList (dropSpace ((cs.dropWhile (· != ':')).drop 1)))
      else none := by
  unfold Stream.dataValue?
  rw [List.span_eq_takeWhile_dropWhile]
  generalize cs.takeWhile (· != ':') = name
  by_cases hn : name = "data".toList
  · subst hn
    rcases dropWhile_colon cs with hd | ⟨value, hd⟩
    · rw [hd]
      rfl
    · rw [hd]
      cases value with
      | nil => rfl
      | cons c value =>
        by_cases hc : c = ' '
        · subst hc
          rfl
        · simp [dropSpace, hc]
  · rw [if_neg hn]
    split <;> simp_all

theorem decode?_length {bytes : List UInt8} {s : String} (h : Text.decode? bytes = some s) :
    s.utf8ByteSize = bytes.length := by
  unfold Text.decode? String.fromUTF8? at h
  split at h
  · cases h
    simp [String.fromUTF8, ByteArray.size]
  · cases h

theorem utf8ByteSize_le_of_suffix {cs ds : List Char} (h : cs <:+ ds) :
    (String.ofList cs).utf8ByteSize ≤ (String.ofList ds).utf8ByteSize := by
  obtain ⟨before, rfl⟩ := h
  rw [String.ofList_append, String.utf8ByteSize_append]
  exact Nat.le_add_left _ _

theorem dropSpace_suffix (cs : List Char) : dropSpace cs <:+ cs := by
  unfold dropSpace
  split
  · exact List.suffix_cons _ _
  · exact List.suffix_refl _

/-- A value is shorter than its line by the name of the field. -/
theorem Line.utf8ByteSize_of_ofBytes {bytes : List UInt8} {value : String}
    (h : Line.ofBytes bytes = .data value) : value.utf8ByteSize + 4 ≤ bytes.length := by
  unfold Line.ofBytes at h
  split at h
  · cases h
  split at h
  · cases h
  next s hs =>
    unfold Line.ofText at h
    split at h
    · cases h
    split at h
    case isTrue hn =>
      cases h
      have hv := utf8ByteSize_le_of_suffix
        ((dropSpace_suffix _).trans (List.drop_suffix 1 (s.toList.dropWhile (· != ':'))))
      have hd : ("data" : String).utf8ByteSize = 4 := rfl
      have he : s = "data" ++ String.ofList (s.toList.dropWhile (· != ':')) := by
        rw [← @String.ofList_toList "data", ← hn, ← String.ofList_append,
          List.takeWhile_append_dropWhile, String.ofList_toList]
      have hl := congrArg String.utf8ByteSize he
      rw [String.utf8ByteSize_append, hd, decode?_length hs] at hl
      omega
    · cases h

namespace Stream

/-- The values of `data` that an event has after one more line. -/
def collect (data : List String) (raw : List UInt8) : List String :=
  match Line.ofBytes (trimmed raw) with
  | .blank => []
  | .data value => data ++ [value]
  | .passedOver => data
  | .malformed => data

variable {data : List String}

theorem collect_blank (h : Line.ofBytes (trimmed raw) = .blank) : collect data raw = [] := by
  rw [collect, h]

theorem collect_data {value : String} (h : Line.ofBytes (trimmed raw) = .data value) :
    collect data raw = data ++ [value] := by
  rw [collect, h]

theorem collect_passedOver (h : Line.ofBytes (trimmed raw) = .passedOver) :
    collect data raw = data := by
  rw [collect, h]

theorem collect_malformed (h : Line.ofBytes (trimmed raw) = .malformed) :
    collect data raw = data := by
  rw [collect, h]

theorem read_cons (data : List String) (raw : List UInt8) (rest : List (List UInt8)) :
    read data (raw :: rest) =
      match Line.ofBytes (trimmed raw) with
      | .blank =>
        if data = [] then read [] rest else .ok ("\n".intercalate data) :: read [] rest
      | .data value => read (data ++ [value]) rest
      | .passedOver => read data rest
      | .malformed => .error .notText :: read data rest := by
  rw [read]
  by_cases hb : trimmed raw = []
  · rw [if_pos hb, hb]
    rfl
  rw [if_neg hb, Line.ofBytes, if_neg (by simpa using hb)]
  cases Text.decode? (trimmed raw) with
  | none => rfl
  | some line =>
    by_cases hc : line.toList.head? = some ':'
    · simp only [hc, if_true, Line.ofText]
    · simp only [hc, if_false, Line.ofText, dataValue?_eq]
      by_cases hn : line.toList.takeWhile (· != ':') = "data".toList
      · simp only [if_pos hn]
      · simp only [if_neg hn]

theorem read_append (data : List String) (raws more : List (List UInt8)) :
    read data (raws ++ more) = read data raws ++ read (raws.foldl collect data) more := by
  induction raws generalizing data with
  | nil => rfl
  | cons raw raws ih =>
    rw [List.cons_append, read_cons, read_cons, List.foldl_cons]
    cases h : Line.ofBytes (trimmed raw) with
    | blank =>
      rw [collect_blank h]
      dsimp only
      split
      · exact ih []
      · rw [ih, List.cons_append]
    | data value =>
      rw [collect_data h]
      exact ih _
    | passedOver =>
      rw [collect_passedOver h]
      exact ih data
    | malformed =>
      rw [collect_malformed h]
      exact congrArg _ (ih data)

end Stream

end FleetControl.Telemetry
