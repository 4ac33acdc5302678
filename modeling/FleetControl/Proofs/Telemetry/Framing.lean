import FleetControl.Proofs.Telemetry.Blocks
import FleetControl.Proofs.Text.Utf8
import FleetControl.Telemetry.Framing

namespace FleetControl.Telemetry

variable {data : List String} {lines : List EndedLine}

namespace EndedLine

variable {l : EndedLine}

theorem length_raw_le (l : EndedLine) : l.raw.length ≤ l.text.utf8ByteSize + 1 := by
  unfold raw
  split <;> simp

theorem lineFeed_not_mem_raw (h : '\n' ∉ l.text.toList) : lineFeed ∉ l.raw := by
  have htext : lineFeed ∉ Text.encode l.text := fun hm ↦
    h (Text.mem_of_mem_encode (by decide) hm)
  unfold raw
  split
  · exact htext
  · rw [List.mem_append, not_or]
    exact ⟨htext, by decide⟩

theorem trimmed_raw (h : l.IsClear) : Stream.trimmed l.raw = Text.encode l.text := by
  unfold raw
  split
  case h_1 he =>
    refine if_neg fun hl ↦ h he ?_
    exact Text.getLast?_of_encode (b := carriageReturn) (by decide) hl
  case h_2 => simp [Stream.trimmed]

theorem flatMap_bytes (lines : List EndedLine) :
    lines.flatMap bytes = Stream.unlines (lines.map raw) := by
  rw [Stream.unlines, List.flatMap_map]
  rfl

theorem ofBytes_trimmed (h : l.IsClear) (ht : l.text ≠ "") :
    Line.ofBytes (Stream.trimmed l.raw) = .ofText l.text.toList := by
  rw [trimmed_raw h, Line.ofBytes, if_neg (by simpa using ht), Text.decode?_encode]

theorem ofBytes_trimmed_empty (h : l.IsClear) (ht : l.text = "") :
    Line.ofBytes (Stream.trimmed l.raw) = .blank := by
  rw [trimmed_raw h, ht]
  rfl

end EndedLine

theorem ofText_data (value : List Char) :
    Line.ofText ("data: " ++ String.ofList value).toList = .data (String.ofList value) := by
  rw [String.toList_append, @String.toList_ofList value]
  rfl

theorem ofText_comment (text : String) : Line.ofText (":" ++ text).toList = .passedOver := by
  rw [String.toList_append]
  rfl

theorem ofText_of_isOtherField {line : String} (h : IsOtherField line) :
    Line.ofText line.toList = .passedOver := by
  have hname : line.toList.takeWhile (· != ':') ≠ "data".toList := h.2.2
  rw [Line.ofText, if_neg hname, ite_self]

theorem passedOver_of_comment {text : String} {l : EndedLine} (hl : l.IsClear)
    (ht : l.text = ":" ++ text) : Line.ofBytes (Stream.trimmed l.raw) = .passedOver := by
  rw [EndedLine.ofBytes_trimmed hl (by simp [ht]), ht, ofText_comment]

theorem passedOver_of_isOtherField {l : EndedLine} (hl : l.IsClear) (ht : IsOtherField l.text) :
    Line.ofBytes (Stream.trimmed l.raw) = .passedOver := by
  rw [EndedLine.ofBytes_trimmed hl ht.1, ofText_of_isOtherField ht]

theorem room_of_linesSize
    (h : weight data + linesSize (lines.map EndedLine.text) ≤ maxEventSize) :
    Room data (lines.map EndedLine.raw) := by
  induction lines generalizing data with
  | nil => trivial
  | cons l lines ih =>
    rw [List.map_cons, linesSize] at h
    have hraw := l.length_raw_le
    have hcollect := weight_collect_le data l.raw
    exact ⟨by omega, ih (by omega)⟩

theorem collect_of_passedOver
    (h : ∀ l ∈ lines, Line.ofBytes (Stream.trimmed l.raw) = .passedOver) :
    (lines.map EndedLine.raw).foldl Stream.collect data = data := by
  induction lines generalizing data with
  | nil => rfl
  | cons l lines ih =>
    rw [List.forall_mem_cons] at h
    rw [List.map_cons, List.foldl_cons, Stream.collect_passedOver h.1, ih h.2]

theorem room_of_passedOver (h : ∀ l ∈ lines, Line.ofBytes (Stream.trimmed l.raw) = .passedOver)
    (hlong : ∀ l ∈ lines, l.raw.length ≤ maxEventSize) : Room [] (lines.map EndedLine.raw) := by
  induction lines with
  | nil => trivial
  | cons l lines ih =>
    rw [List.forall_mem_cons] at h hlong
    refine ⟨by simpa [weight] using hlong.1, ?_⟩
    rw [Stream.collect_passedOver h.1]
    exact ih h.2 hlong.2

theorem collect_of_data {values : List (List Char)} (hclear : ∀ l ∈ lines, l.IsClear)
    (h : lines.map EndedLine.text = values.map fun value ↦ "data: " ++ String.ofList value) :
    (lines.map EndedLine.raw).foldl Stream.collect data = data ++ values.map String.ofList := by
  induction values generalizing lines data with
  | nil =>
    obtain rfl : lines = [] := by simpa using h
    simp
  | cons value values ih =>
    obtain ⟨l, lines, rfl, htext, hrest⟩ := List.map_eq_cons_iff.mp h
    rw [List.forall_mem_cons] at hclear
    have hsaid : Line.ofBytes (Stream.trimmed l.raw) = .data (String.ofList value) := by
      rw [EndedLine.ofBytes_trimmed hclear.1 (by simp [htext]), htext, ofText_data]
    rw [List.map_cons, List.foldl_cons, Stream.collect_data hsaid, ih hclear.2 hrest]
    simp

theorem not_mem_of_mem_splitOn {cs part : List Char} {c : Char} (h : part ∈ cs.splitOn c) :
    c ∉ part := by
  induction cs generalizing part with
  | nil =>
    obtain rfl : part = [] := by simpa using h
    exact List.not_mem_nil
  | cons d cs ih =>
    rw [List.splitOn_cons_eq_if_modifyHead] at h
    split at h
    case isTrue =>
      rcases List.mem_cons.mp h with rfl | h
      · exact List.not_mem_nil
      · exact ih h
    case isFalse hd =>
      obtain ⟨first, rest, hs⟩ := List.exists_cons_of_ne_nil (List.splitOn_ne_nil c cs)
      rw [hs] at h ih
      rcases List.mem_cons.mp h with rfl | h
      · rw [List.mem_cons, not_or]
        exact ⟨fun he ↦ hd (by simp [he]), ih List.mem_cons_self⟩
      · exact ih (List.mem_cons_of_mem _ h)

theorem intercalate_splitOn (data : String) :
    "\n".intercalate ((data.toList.splitOn '\n').map String.ofList) = data := by
  have hparts : (data.toList.splitOn '\n').map (String.toList ∘ String.ofList) =
      data.toList.splitOn '\n' :=
    (List.map_congr_left fun part _ ↦ @String.toList_ofList part).trans (List.map_id _)
  rw [← String.toList_inj, String.toList_intercalate, List.map_map, hparts]
  exact List.intercalate_splitOn '\n'

namespace EndedLine

variable {l : EndedLine}

theorem spoken_raw (hclear : l.IsClear) (hl : '\n' ∉ l.text.toList) (ht : l.text ≠ "") :
    Spoken l.raw := by
  refine ⟨lineFeed_not_mem_raw hl, ?_, ?_⟩ <;>
  · rw [ofBytes_trimmed hclear ht, Line.ofText]
    split_ifs <;> simp

end EndedLine

theorem read_block {l : EndedLine} {values : List String} (hspoken : ∀ l ∈ lines, Spoken l.raw)
    (hvalues : (lines.map EndedLine.raw).foldl Stream.collect [] = values)
    (hl : l.IsClear) (ht : l.text = "") :
    Stream.read [] ((lines ++ [l]).map EndedLine.raw) =
        (if values = [] then [] else [.ok ("\n".intercalate values)]) ∧
      ((lines ++ [l]).map EndedLine.raw).foldl Stream.collect [] = [] := by
  have hblank := EndedLine.ofBytes_trimmed_empty hl ht
  rw [List.map_append, read_of_spoken (List.forall_mem_map.mpr hspoken), List.foldl_append, hvalues]
  refine ⟨?_, Stream.collect_blank hblank⟩
  rw [List.map_singleton, Stream.read_cons, hblank]
  rfl

namespace Frame

variable {f : Frame}

theorem not_mem_lines (h : f.IsSound) : ∀ text ∈ f.lines, '\n' ∉ text.toList := by
  cases f with
  | event data =>
    rw [lines, eventLines, List.forall_mem_append, List.forall_mem_map]
    refine ⟨fun part hp ↦ ?_, by simp⟩
    rw [String.toList_append, @String.toList_ofList part, List.mem_append, not_or]
    exact ⟨by decide, not_mem_of_mem_splitOn hp⟩
  | comment text =>
    rw [lines, List.forall_mem_singleton, String.toList_append, List.mem_append, not_or]
    exact ⟨by decide, h⟩
  | fields texts =>
    rw [lines, List.forall_mem_append]
    exact ⟨fun text ht ↦ (h text ht).2.1, by simp⟩

theorem read_lines (hf : f.IsSound) (hclear : ∀ l ∈ lines, l.IsClear)
    (hlong : ∀ l ∈ lines, l.raw.length ≤ maxEventSize)
    (h : lines.map EndedLine.text = f.lines) :
    Stream.read [] (lines.map EndedLine.raw) = f.data?.toList.map .ok ∧
      (lines.map EndedLine.raw).foldl Stream.collect [] = [] ∧ Room [] (lines.map EndedLine.raw) := by
  have hspoken : ∀ l ∈ lines, l.text ≠ "" → Spoken l.raw := fun l hl ↦
    EndedLine.spoken_raw (hclear l hl) (not_mem_lines hf _ (h ▸ List.mem_map_of_mem hl))
  cases f with
  | event data =>
    have hroom : Room [] (lines.map EndedLine.raw) :=
      room_of_linesSize (by rw [h, weight, Nat.zero_add]; exact hf)
    obtain ⟨body, last, rfl, hbody, hlast⟩ := List.map_eq_append_iff.mp h
    obtain ⟨l, rfl, ht⟩ := List.map_eq_singleton_iff.mp hlast
    rw [List.forall_mem_append] at hclear hspoken
    have htext : ∀ l ∈ body, l.text ≠ "" := by
      intro l hl he
      have hm := List.mem_map_of_mem (f := EndedLine.text) hl
      rw [hbody, he] at hm
      simp at hm
    have hcollect : (body.map EndedLine.raw).foldl Stream.collect [] =
        (data.toList.splitOn '\n').map String.ofList :=
      collect_of_data hclear.1 hbody
    have hb := read_block (fun l hl ↦ hspoken.1 l hl (htext l hl)) hcollect
      (hclear.2 l (List.mem_singleton_self l)) ht
    rw [intercalate_splitOn, if_neg (by simp)] at hb
    exact ⟨hb.1, hb.2, hroom⟩
  | comment text =>
    obtain ⟨l, rfl, ht⟩ := List.map_eq_singleton_iff.mp h
    have hne : l.text ≠ "" := by simp [ht]
    have hsaid : ∀ l' ∈ [l], Line.ofBytes (Stream.trimmed l'.raw) = .passedOver :=
      List.forall_mem_singleton.mpr
        (passedOver_of_comment (hclear l (List.mem_singleton_self l)) ht)
    have hcollect : ([l].map EndedLine.raw).foldl Stream.collect [] = [] :=
      collect_of_passedOver hsaid
    have hone : ∀ raw ∈ [l].map EndedLine.raw, Spoken raw :=
      List.forall_mem_singleton.mpr (hspoken l (List.mem_singleton_self l) hne)
    have hread : Stream.read [] ([l].map EndedLine.raw) = [] := by
      rw [← List.append_nil ([l].map EndedLine.raw), read_of_spoken hone, hcollect]
      rfl
    exact ⟨hread, hcollect, room_of_passedOver hsaid hlong⟩
  | fields texts =>
    obtain ⟨body, last, rfl, hbody, hlast⟩ := List.map_eq_append_iff.mp h
    obtain ⟨l, rfl, ht⟩ := List.map_eq_singleton_iff.mp hlast
    rw [List.forall_mem_append] at hclear hspoken hlong
    have hother : ∀ l ∈ body, IsOtherField l.text := fun l hl ↦
      hf _ (hbody ▸ List.mem_map_of_mem hl)
    have hsaid : ∀ l ∈ body, Line.ofBytes (Stream.trimmed l.raw) = .passedOver := fun l hl ↦
      passedOver_of_isOtherField (hclear.1 l hl) (hother l hl)
    have hcollect : (body.map EndedLine.raw).foldl Stream.collect [] = [] :=
      collect_of_passedOver hsaid
    obtain ⟨hread, hleft⟩ := read_block (fun l hl ↦ hspoken.1 l hl (hother l hl).1) hcollect
      (hclear.2 l (List.mem_singleton_self l)) ht
    refine ⟨hread, hleft, ?_⟩
    rw [List.map_append, room_append, hcollect]
    exact ⟨room_of_passedOver hsaid hlong.1,
      by simpa [weight] using hlong.2 l (List.mem_singleton_self l), trivial⟩

theorem read_frames {frames : List Frame}
    (hlines : lines.map EndedLine.text = frames.flatMap Frame.lines)
    (hclear : ∀ l ∈ lines, l.IsClear) (hsound : ∀ f ∈ frames, f.IsSound)
    (hlong : ∀ l ∈ lines, l.raw.length ≤ maxEventSize) :
    Stream.read [] (lines.map EndedLine.raw) = (frames.filterMap data?).map .ok ∧
      Room [] (lines.map EndedLine.raw ++ [[]]) := by
  induction frames generalizing lines with
  | nil =>
    obtain rfl : lines = [] := by simpa using hlines
    exact ⟨rfl, by decide, trivial⟩
  | cons f frames ih =>
    obtain ⟨first, rest, rfl, hfirst, hrest⟩ := List.map_eq_append_iff.mp hlines
    rw [List.forall_mem_append] at hclear hlong
    rw [List.forall_mem_cons] at hsound
    obtain ⟨hread, hcollect, hroom⟩ := read_lines hsound.1 hclear.1 hlong.1 hfirst
    obtain ⟨hreads, hrooms⟩ := ih hrest hclear.2 hsound.2 hlong.2
    refine ⟨?_, ?_⟩
    · rw [List.map_append, Stream.read_append, hread, hcollect, hreads, List.filterMap_cons]
      cases f <;> rfl
    · rw [List.map_append, List.append_assoc, room_append, hcollect]
      exact ⟨hroom, hrooms⟩

end Frame

/-- What was written into a stream is read from it, and nothing else: the data of the events, in their
order and without an error, wherever the lines of the stream are cut into chunks. Each line may end in
either of the two ways; a text with a carriage return at its end is not ended by a line feed alone. -/
theorem frames_read_back {frames : List Frame} {chunks : List (List UInt8)}
    (hlines : lines.map EndedLine.text = frames.flatMap Frame.lines)
    (hclear : ∀ l ∈ lines, l.IsClear) (hsound : ∀ f ∈ frames, f.IsSound)
    (hlong : ∀ l ∈ lines, l.raw.length ≤ maxEventSize)
    (hchunks : chunks.flatten = lines.flatMap EndedLine.bytes) :
    (Decoder.decodeChunks Decoder.drain .empty chunks).flatten =
      (frames.filterMap Frame.data?).map .ok := by
  obtain ⟨hread, hroom⟩ := Frame.read_frames hlines hclear hsound hlong
  have hfeed : ∀ raw ∈ lines.map EndedLine.raw, lineFeed ∉ raw := by
    refine List.forall_mem_map.mpr fun l hl ↦ EndedLine.lineFeed_not_mem_raw ?_
    have hm := List.mem_map_of_mem (f := EndedLine.text) hl
    rw [hlines, List.mem_flatMap] at hm
    obtain ⟨f, hf, hm⟩ := hm
    exact Frame.not_mem_lines (hsound f hf) _ hm
  rw [EndedLine.flatMap_bytes] at hchunks
  have hroom' : Room [] (([] ++ chunks.flatten).splitOn lineFeed) := by
    rwa [List.nil_append, Stream.splitOn_eq, hchunks, Stream.lines_of_unlines hfeed,
      Stream.tail_of_unlines hfeed]
  rw [Decoder.decodeChunks_events (Decoder.unrefused_of_room hroom'), Stream.events, hchunks,
    Stream.lines_of_unlines hfeed, hread]

def lookalikes : List Frame :=
  [.comment " alive\r", .event "", .fields ["event: telemetry", "dat", ":"],
    .event " : é\n\ndata: x", .comment ""]

def lookalikeLines : List EndedLine :=
  (lookalikes.flatMap Frame.lines).zipWith EndedLine.mk
    [.returnFeed, .feed, .returnFeed, .feed, .returnFeed, .feed, .returnFeed, .feed, .returnFeed,
      .feed, .returnFeed, .feed]

def lookalikeBytes : List (List UInt8) :=
  (lookalikeLines.flatMap EndedLine.bytes).map fun b ↦ [b]

theorem frames_read_back_lookalikes :
    lookalikeLines.map EndedLine.text = lookalikes.flatMap Frame.lines ∧
    (∀ l ∈ lookalikeLines, l.IsClear) ∧ (∀ f ∈ lookalikes, f.IsSound) ∧
    (∀ l ∈ lookalikeLines, l.raw.length ≤ maxEventSize) ∧
    lookalikeBytes.flatten = lookalikeLines.flatMap EndedLine.bytes ∧
    (Decoder.decodeChunks Decoder.drain .empty lookalikeBytes).flatten =
      [.ok "", .ok " : é\n\ndata: x"] := by
  have hlines : lookalikeLines.map EndedLine.text = lookalikes.flatMap Frame.lines := by
    decide +kernel
  have hclear : ∀ l ∈ lookalikeLines, l.IsClear := by decide +kernel
  have hsound : ∀ f ∈ lookalikes, f.IsSound := by decide +kernel
  have hlong : ∀ l ∈ lookalikeLines, l.raw.length ≤ maxEventSize := by decide +kernel
  have hbytes : lookalikeBytes.flatten = lookalikeLines.flatMap EndedLine.bytes := by
    decide +kernel
  exact ⟨hlines, hclear, hsound, hlong, hbytes,
    frames_read_back hlines hclear hsound hlong hbytes⟩

end FleetControl.Telemetry
