import FleetControl.Proofs.Telemetry.Chunks

namespace FleetControl.Telemetry

section Lines

variable {data : List String} {raw bytes : List UInt8} {raws : List (List UInt8)}

namespace Stream

def unlines (raws : List (List UInt8)) : List UInt8 :=
  raws.flatMap fun raw ↦ raw ++ [lineFeed]

theorem unlines_cons (raw : List UInt8) (raws : List (List UInt8)) :
    unlines (raw :: raws) = raw ++ lineFeed :: unlines raws := by
  simp [unlines]

theorem unlines_append (raws more : List (List UInt8)) :
    unlines (raws ++ more) = unlines raws ++ unlines more :=
  List.flatMap_append

theorem lines_unlines (h : ∀ raw ∈ raws, lineFeed ∉ raw) (bytes : List UInt8) :
    lines (unlines raws ++ bytes) = raws ++ lines bytes := by
  induction raws with
  | nil => rfl
  | cons raw raws ih =>
    rw [List.forall_mem_cons] at h
    rw [unlines_cons, List.append_assoc, List.cons_append, lines_line h.1, ih h.2,
      List.cons_append]

theorem tail_unlines (h : ∀ raw ∈ raws, lineFeed ∉ raw) (bytes : List UInt8) :
    tail (unlines raws ++ bytes) = tail bytes := by
  induction raws with
  | nil => rfl
  | cons raw raws ih =>
    rw [List.forall_mem_cons] at h
    rw [unlines_cons, List.append_assoc, List.cons_append, tail_line h.1, ih h.2]

theorem lines_of_unlines (h : ∀ raw ∈ raws, lineFeed ∉ raw) : lines (unlines raws) = raws := by
  simpa [lines] using lines_unlines h []

theorem tail_of_unlines (h : ∀ raw ∈ raws, lineFeed ∉ raw) : tail (unlines raws) = [] := by
  simpa [tail] using tail_unlines h []

/-- A cut through some lines is behind them all, or it goes through one of them. -/
theorem unlines_eq_append {before after : List UInt8} (h : unlines raws = before ++ after) :
    (before = unlines raws ∧ after = []) ∨
      ∃ done start rest more, raws = done ++ (start ++ rest) :: more ∧
        before = unlines done ++ start ∧ after = rest ++ lineFeed :: unlines more := by
  induction raws generalizing before with
  | nil =>
    obtain ⟨rfl, rfl⟩ := List.append_eq_nil_iff.mp h.symm
    exact Or.inl ⟨rfl, rfl⟩
  | cons raw raws ih =>
    rw [unlines_cons] at h
    rcases List.append_eq_append_iff.mp h with ⟨more, rfl, hmore⟩ | ⟨rest, rfl, rfl⟩
    · cases more with
      | nil => exact Or.inr ⟨[], raw, [], raws, by simp, by simp [unlines], by simpa using hmore.symm⟩
      | cons b more =>
        rw [List.cons_append] at hmore
        obtain ⟨rfl, htail⟩ := List.cons.inj hmore
        rcases ih htail with ⟨rfl, rfl⟩ | ⟨done, start, rest, more, rfl, rfl, rfl⟩
        · exact Or.inl ⟨(unlines_cons raw raws).symm, rfl⟩
        · exact Or.inr ⟨raw :: done, start, rest, more, rfl, by simp [unlines_cons], rfl⟩
    · exact Or.inr ⟨[], before, rest, raws, rfl, rfl, rfl⟩

end Stream

def Spoken (raw : List UInt8) : Prop :=
  lineFeed ∉ raw ∧ Line.ofBytes (Stream.trimmed raw) ≠ .blank ∧
    Line.ofBytes (Stream.trimmed raw) ≠ .malformed

instance (raw : List UInt8) : Decidable (Spoken raw) :=
  inferInstanceAs (Decidable (_ ∧ _ ∧ _))

theorem yielded_of_spoken (h : Spoken raw) : Stream.yielded data raw = [] := by
  obtain ⟨-, hb, hm⟩ := h
  unfold Stream.yielded
  cases hl : Line.ofBytes (Stream.trimmed raw) with
  | blank => exact absurd hl hb
  | malformed => exact absurd hl hm
  | data value => rfl
  | passedOver => rfl

theorem read_of_spoken (h : ∀ raw ∈ raws, Spoken raw) (more : List (List UInt8)) :
    Stream.read data (raws ++ more) = Stream.read (raws.foldl Stream.collect data) more := by
  induction raws generalizing data with
  | nil => rfl
  | cons raw raws ih =>
    rw [List.forall_mem_cons] at h
    rw [List.cons_append, Stream.read_cons_eq, yielded_of_spoken h.1, List.nil_append, ih h.2,
      List.foldl_cons]

theorem weight_le_collect (h : Spoken raw) : weight data ≤ weight (Stream.collect data raw) := by
  cases hl : Line.ofBytes (Stream.trimmed raw) with
  | blank => exact absurd hl h.2.1
  | malformed => exact absurd hl h.2.2
  | data value =>
    rw [Stream.collect_data hl, weight_append]
    exact Nat.le_add_right _ _
  | passedOver => exact Nat.le_of_eq (by rw [Stream.collect_passedOver hl])

theorem weight_le_foldl (h : ∀ raw ∈ raws, Spoken raw) :
    weight data ≤ weight (raws.foldl Stream.collect data) := by
  induction raws generalizing data with
  | nil => exact Nat.le_refl _
  | cons raw raws ih =>
    rw [List.forall_mem_cons] at h
    exact Nat.le_trans (weight_le_collect h.1) (ih h.2)

theorem fits_of_spoken (h : ∀ raw ∈ raws, Spoken raw)
    (hw : weight (raws.foldl Stream.collect data) ≤ maxEventSize) : Fits data raws := by
  induction raws generalizing data with
  | nil => trivial
  | cons raw raws ih =>
    rw [List.forall_mem_cons] at h
    exact ⟨Nat.le_trans (weight_le_foldl h.2) hw, ih h.2 hw⟩

theorem not_blank_of_spoken (h : Spoken raw) : (Stream.trimmed raw).isEmpty = false := by
  refine Bool.eq_false_iff.mpr fun he ↦ h.2.1 ?_
  rw [List.isEmpty_iff.mp he]
  rfl

theorem blank_of_append {start rest : List UInt8} (h : (Stream.trimmed (start ++ rest)).isEmpty) :
    (Stream.trimmed rest).isEmpty := by
  cases rest with
  | nil => rfl
  | cons b rest =>
    have hl := length_of_blank h
    rw [List.length_append, List.length_cons] at hl
    rwa [List.eq_nil_of_length_eq_zero (by omega : start.length = 0)] at h

end Lines

/-- A block of a stream: the lines that make up its event, and the blank line that ends it. -/
structure Block where
  content : List (List UInt8)
  blank : List UInt8
  spoken : ∀ raw ∈ content, Spoken raw
  ended : lineFeed ∉ blank ∧ (Stream.trimmed blank).isEmpty

namespace Block

variable {b : Block}

def lines (b : Block) : List (List UInt8) := b.content ++ [b.blank]

def bytes (b : Block) : List UInt8 := Stream.unlines b.lines

def data (b : Block) : List String := b.content.foldl Stream.collect []

def event (b : Block) : List (Except EventError String) :=
  if b.data = [] then [] else [.ok ("\n".intercalate b.data)]

/-- Whether the bytes of a block keep within the bound on an event, line ends apart. -/
def isSmall (b : Block) : Bool := Stream.blockSize b.content ≤ maxEventSize

/-- Whether a block carries more data than an event may. -/
def isOversized (b : Block) : Bool := maxEventSize < weight b.data

theorem lineFeed_not_mem (b : Block) : ∀ raw ∈ b.lines, lineFeed ∉ raw := by
  intro raw hm
  rcases List.mem_append.mp hm with hm | hm
  · exact (b.spoken raw hm).1
  · rw [List.mem_singleton.mp hm]
    exact b.ended.1

theorem collect_lines (b : Block) (data : List String) :
    b.lines.foldl Stream.collect data = [] := by
  rw [lines, List.foldl_append]
  exact collect_of_blank b.ended.2

theorem read_lines (b : Block) : Stream.read [] b.lines = b.event := by
  rw [lines, read_of_spoken b.spoken, Stream.read, if_pos (List.isEmpty_iff.mp b.ended.2)]
  rfl

theorem fits_lines (h : b.isOversized = false) : Fits [] b.lines := by
  have hw : weight b.data ≤ maxEventSize := by simpa [isOversized] using h
  refine fits_append.mpr ⟨fits_of_spoken b.spoken hw, ?_, trivial⟩
  rw [collect_of_blank b.ended.2]
  exact Nat.zero_le _

theorem room_lines (h : b.isSmall = true) : Room [] b.lines := by
  have hsize : Stream.blockSize b.content ≤ maxEventSize := by simpa [isSmall] using h
  have hsplit : b.lines.splitOnP (fun raw ↦ (Stream.trimmed raw).isEmpty) = [b.content, []] :=
    List.splitOnP_append_cons_of_forall_mem
      (fun raw hm ↦ not_blank_of_spoken (b.spoken raw hm)) b.blank b.ended.2 []
  refine room_of_blocks (Or.inl rfl : [] = [] ∨ weight [] < Stream.blockSize []) fun block hm ↦ ?_
  rw [modifyHead_nil_append, hsplit] at hm
  simp only [List.mem_cons, List.not_mem_nil, or_false] at hm
  rcases hm with rfl | rfl
  · exact hsize
  · exact Nat.zero_le _

theorem lines_bytes (b : Block) : Stream.lines b.bytes = b.lines :=
  Stream.lines_of_unlines b.lineFeed_not_mem

theorem tail_bytes (b : Block) : Stream.tail b.bytes = [] :=
  Stream.tail_of_unlines b.lineFeed_not_mem

theorem splitOn_bytes (b : Block) : b.bytes.splitOn lineFeed = b.lines ++ [[]] := by
  rw [Stream.splitOn_eq, lines_bytes, tail_bytes]

theorem left_closed {before after : List UInt8} (h : b.bytes = before ++ after) :
    Stream.tail after = [] ∧ (Stream.lines after).foldl Stream.collect [] = [] := by
  rcases Stream.unlines_eq_append h with ⟨-, rfl⟩ | ⟨done, start, rest, more, hl, -, rfl⟩
  · exact ⟨rfl, rfl⟩
  have hraws : ∀ raw ∈ rest :: more, lineFeed ∉ raw := by
    have hmem := b.lineFeed_not_mem
    rw [hl, List.forall_mem_append, List.forall_mem_cons, List.mem_append, not_or] at hmem
    exact List.forall_mem_cons.mpr ⟨hmem.2.1.2, hmem.2.2⟩
  rw [← Stream.unlines_cons, Stream.lines_of_unlines hraws]
  refine ⟨Stream.tail_of_unlines hraws, ?_⟩
  -- The last of these lines is the blank one, or what is left of it.
  rcases List.eq_nil_or_concat more with rfl | ⟨init, last, rfl⟩
  · have hlast : b.blank = start ++ rest :=
      List.singleton_inj.mp (List.append_inj' (hl : b.content ++ [b.blank] = _ ++ [_]) rfl).2
    exact collect_of_blank (blank_of_append (hlast ▸ b.ended.2))
  · have hlast : b.blank = last := by
      rw [List.concat_eq_append, ← List.cons_append, ← List.append_assoc] at hl
      exact List.singleton_inj.mp (List.append_inj' (hl : b.content ++ [b.blank] = _) rfl).2
    rw [List.concat_eq_append, ← List.cons_append, List.foldl_append]
    exact collect_of_blank (hlast ▸ b.ended.2)

/-- An event that is refused within a block: the block is not small, and nothing of it is yielded. -/
theorem refusal {before after : List UInt8} {raws : List (List UInt8)} {size : ℕ}
    (h : b.bytes = before ++ after) (hr : Decoder.Refusal [] before raws size) :
    b.isSmall = false ∧ Stream.read [] raws = [] := by
  constructor
  · refine Bool.eq_false_iff.mpr fun hsmall ↦ ?_
    have hroom : Room [] (b.bytes.splitOn lineFeed) := by
      rw [splitOn_bytes]
      refine room_append.mpr ⟨room_lines hsmall, ?_, trivial⟩
      rw [collect_lines]
      exact Nat.zero_le _
    exact Decoder.not_refusal_of_room (room_of_append (h ▸ hroom)) hr
  · have hbefore : b.lines = Stream.lines before ++ Stream.lines (Stream.tail before ++ after) := by
      rw [← Stream.lines_append, ← h, lines_bytes]
    have htail : Stream.tail (Stream.tail before ++ after) = [] := by
      rw [← Stream.tail_append, ← h, tail_bytes]
    -- The lines before the refusal do not reach the blank line, where nothing is collected any more.
    have hpre : raws <+: b.lines ∧ raws ≠ b.lines := by
      obtain ⟨-, hlarge, hreached⟩ := hr
      rcases hreached with ⟨raw, more, hl, -⟩ | ⟨rfl, rfl⟩
      · rw [hl, List.append_assoc] at hbefore
        refine ⟨hbefore ▸ List.prefix_append _ _, fun he ↦ ?_⟩
        simp [he] at hbefore
      · refine ⟨hbefore ▸ List.prefix_append _ _, fun he ↦ ?_⟩
        rw [he, List.self_eq_append_right] at hbefore
        have hnone : lineFeed ∉ Stream.tail before ++ after := by
          rw [← List.count_eq_zero, ← Stream.length_lines, hbefore, List.length_nil]
        rw [Stream.tail_of_not_mem hnone, List.append_eq_nil_iff] at htail
        rw [htail.1, he, collect_lines] at hlarge
        exact absurd hlarge (by decide)
    rcases List.prefix_concat_iff.mp hpre.1 with hall | ⟨rest, hrest⟩
    · exact absurd hall hpre.2
    · have hspoken : ∀ raw ∈ raws, Spoken raw := fun raw hm ↦
        b.spoken raw (hrest ▸ List.mem_append_left rest hm)
      have hread : Stream.read [] (raws ++ []) = _ := read_of_spoken hspoken []
      simpa [Stream.read] using hread

def stream (blocks : List Block) : List UInt8 := blocks.flatMap bytes

theorem stream_eq_unlines (blocks : List Block) :
    stream blocks = Stream.unlines (blocks.flatMap lines) :=
  List.flatMap_assoc.symm

theorem lineFeed_not_mem_stream (blocks : List Block) :
    ∀ raw ∈ blocks.flatMap lines, lineFeed ∉ raw :=
  List.forall_mem_flatMap.mpr fun b _ ↦ b.lineFeed_not_mem

theorem lines_stream (blocks : List Block) :
    Stream.lines (stream blocks) = blocks.flatMap lines := by
  rw [stream_eq_unlines, Stream.lines_of_unlines (lineFeed_not_mem_stream blocks)]

theorem tail_stream (blocks : List Block) : Stream.tail (stream blocks) = [] := by
  rw [stream_eq_unlines, Stream.tail_of_unlines (lineFeed_not_mem_stream blocks)]

theorem collect_stream (blocks : List Block) :
    (blocks.flatMap lines).foldl Stream.collect [] = [] := by
  induction blocks with
  | nil => rfl
  | cons b blocks ih => rw [List.flatMap_cons, List.foldl_append, collect_lines, ih]

theorem read_stream (blocks : List Block) : Stream.read [] (blocks.flatMap lines) =
    blocks.flatMap event := by
  induction blocks with
  | nil => rfl
  | cons b blocks ih =>
    rw [List.flatMap_cons, Stream.read_append, read_lines, collect_lines, ih, List.flatMap_cons]

theorem isOversized_of_fits (h : Fits [] b.lines) : b.isOversized = false := by
  have hnone : weight [] ≤ maxEventSize := Nat.zero_le _
  exact decide_eq_false (Nat.not_lt.mpr (weight_foldl_le hnone (fits_append.mp h).1))

theorem fits_stream {blocks : List Block} :
    Fits [] (blocks.flatMap lines) ↔ ∀ b ∈ blocks, b.isOversized = false := by
  induction blocks with
  | nil => simp [Fits]
  | cons b blocks ih =>
    rw [List.flatMap_cons, fits_append, collect_lines, ih, List.forall_mem_cons]
    exact and_congr_left fun _ ↦ ⟨isOversized_of_fits, fits_lines⟩

end Block

end FleetControl.Telemetry
