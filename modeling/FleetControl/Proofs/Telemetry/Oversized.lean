import FleetControl.Proofs.Telemetry.Blocks
import Mathlib.Data.List.Forall2

namespace FleetControl.Telemetry

open Decoder (Refusal Unrefused)

variable {left : List UInt8} {raws chunks : List (List UInt8)} {blocks : List Block}

/-- Chunks that carry what is left of a block and the blocks after it. Where an event is refused, the bytes
at hand end within its block. -/
inductive CutWithin : List UInt8 → List (List UInt8) → List Block → Prop
  | unrefused {left : List UInt8} {chunks : List (List UInt8)} {blocks : List Block} :
      chunks.flatten = left ++ Block.stream blocks → Unrefused [] chunks →
        CutWithin left chunks blocks
  | again {start rest chunk : List UInt8} {before more raws : List (List UInt8)}
      {blocks : List Block} {size : ℕ} :
      (before ++ [chunk]).flatten = start → Unrefused [] before → Refusal [] start raws size →
      CutWithin rest more blocks → CutWithin (start ++ rest) (before ++ chunk :: more) blocks
  | refused {left start rest chunk : List UInt8} {before more raws : List (List UInt8)}
      {earlier later : List Block} {block : Block} {size : ℕ} :
      (before ++ [chunk]).flatten = left ++ Block.stream earlier ++ start →
      block.bytes = start ++ rest → Unrefused [] before →
      Fits [] (Stream.lines left) → (∀ b ∈ earlier, b.isOversized = false) →
      Refusal [] start raws size → CutWithin rest more later →
        CutWithin left (before ++ chunk :: more) (earlier ++ block :: later)

/-- The results of what is left of a refused block: those of a stream that begins there, which may be
refused once more. -/
inductive Resumed : List UInt8 → List (Except EventError String) → Prop
  | unrefused {left : List UInt8} : Fits [] (Stream.lines left) → Resumed left (Stream.events left)
  | again {start rest : List UInt8} {raws : List (List UInt8)} {size : ℕ}
      {told : List (Except EventError String)} :
      Refusal [] start raws size → Resumed rest told →
        Resumed (start ++ rest) (Stream.read [] raws ++ .error (.tooLarge size) :: told)

/-- The results of a block: its event, or that it is refused and then what is left of it. -/
inductive Block.Told (b : Block) : List (Except EventError String) → Prop
  | whole : b.isOversized = false → Told b b.event
  | refused {start rest : List UInt8} {raws : List (List UInt8)} {size : ℕ}
      {told : List (Except EventError String)} :
      b.isSmall = false → b.bytes = start ++ rest → Refusal [] start raws size → Resumed rest told →
        Told b (.error (.tooLarge size) :: told)

theorem CutWithin.flatten_eq (h : CutWithin left chunks blocks) :
    chunks.flatten = left ++ Block.stream blocks := by
  induction h with
  | unrefused hc => exact hc
  | again hc _ _ _ ih => rw [List.append_cons, List.flatten_append, hc, ih, List.append_assoc]
  | refused hc hb _ _ _ _ _ ih =>
    rw [List.append_cons, List.flatten_append, hc, ih]
    simp [Block.stream, hb]

theorem lines_left_stream (ht : Stream.tail left = []) (blocks : List Block) :
    Stream.lines (left ++ Block.stream blocks) =
      Stream.lines left ++ blocks.flatMap Block.lines := by
  rw [Stream.lines_append, ht, List.nil_append, Block.lines_stream]

theorem tail_left_stream (ht : Stream.tail left = []) (blocks : List Block) :
    Stream.tail (left ++ Block.stream blocks) = [] := by
  rw [Stream.tail_append, ht, List.nil_append, Block.tail_stream]

theorem told_of_not_oversized (h : ∀ b ∈ blocks, b.isOversized = false) :
    List.Forall₂ Block.Told blocks (blocks.map Block.event) := by
  induction blocks with
  | nil => exact .nil
  | cons b blocks ih =>
    rw [List.forall_mem_cons] at h
    exact .cons (.whole h.1) (ih h.2)

theorem resumed_nil {results : List (Except EventError String)} (h : Resumed [] results) :
    results = [] := by
  generalize hl : [] = left at h
  cases h with
  | unrefused => rw [← hl, Stream.events_nil]
  | again hr =>
    rw [(List.append_eq_nil_iff.mp hl.symm).1] at hr
    exact absurd hr (Decoder.not_refusal_of_fits trivial (Nat.zero_le _))

theorem CutWithin.exists_told {b : Block} (h : CutWithin left chunks blocks) (hl : left <:+ b.bytes) :
    ∃ rest told, Resumed left rest ∧ List.Forall₂ Block.Told blocks told ∧
      (Decoder.decodeChunks Decoder.drain .empty chunks).flatten = rest ++ told.flatten := by
  induction h generalizing b with
  | @unrefused left chunks blocks hc hu =>
    obtain ⟨before, hb⟩ := hl
    obtain ⟨ht, hcollect⟩ := b.left_closed hb.symm
    have hlines : Stream.lines chunks.flatten =
        Stream.lines left ++ blocks.flatMap Block.lines := by rw [hc, lines_left_stream ht]
    have hfits := Decoder.fits_of_unrefused hu
    rw [hlines, fits_append, hcollect, Block.fits_stream] at hfits
    refine ⟨_, _, .unrefused hfits.1, told_of_not_oversized hfits.2, ?_⟩
    rw [Decoder.decodeChunks_events hu, Stream.events, hlines, Stream.read_append, hcollect,
      Block.read_stream, ← Stream.events, List.flatMap_def]
  | again hc hu hr _ ih =>
    obtain ⟨rest, told, hrest, htold, he⟩ := ih ((List.suffix_append _ _).trans hl)
    refine ⟨_, told, .again hr hrest, htold, ?_⟩
    rw [Decoder.decodeChunks_first_refusal hu (hc ▸ hr), he, List.append_assoc, List.cons_append]
  | @refused left start rest chunk before more raws earlier later block size hc hb hu hf hkeep hr _ ih =>
    obtain ⟨_, hleft⟩ := hl
    obtain ⟨ht, hcollect⟩ := b.left_closed hleft.symm
    obtain ⟨hlarge, hread⟩ := Block.refusal hb hr
    have hlines := lines_left_stream ht earlier
    -- The refusal of the block is one of the bytes at hand.
    have hall : Refusal [] (before ++ [chunk]).flatten
        (Stream.lines left ++ earlier.flatMap Block.lines ++ raws) size := by
      rw [hc, ← hlines]
      refine (Decoder.refusal_append ?_).mpr ⟨raws, rfl, ?_⟩
      · rw [hlines, fits_append, hcollect]
        exact ⟨hf, Block.fits_stream.mpr hkeep⟩
      · rwa [hlines, List.foldl_append, hcollect, Block.collect_stream, tail_left_stream ht]
    obtain ⟨results, told, hresults, htold, he⟩ := ih ⟨start, hb.symm⟩
    refine ⟨_, _, .unrefused hf, List.rel_append (told_of_not_oversized hkeep)
      (.cons (.refused hlarge hb hr hresults) htold), ?_⟩
    rw [Decoder.decodeChunks_first_refusal hu hall, he, Stream.read_append, Stream.read_append,
      List.foldl_append, hcollect, Block.collect_stream, hread, Block.read_stream, ← Stream.events]
    simp [List.flatMap_def]

def dataLine (value : List UInt8) : List UInt8 := [100, 97, 116, 97, 58, 32] ++ value

def fullLines : List (List UInt8) := List.replicate 16384 (dataLine (List.replicate 64 120))

theorem spoken_fullLines : ∀ raw ∈ fullLines, Spoken raw := by
  intro raw hm
  rw [List.eq_of_mem_replicate hm]
  decide

theorem collect_fullLines (data : List String) :
    fullLines.foldl Stream.collect data =
      data ++ List.replicate 16384 (String.ofList (List.replicate 64 'x')) := by
  unfold fullLines
  generalize 16384 = n
  induction n generalizing data with
  | zero => simp
  | succ n ih =>
    have hl : Line.ofBytes (Stream.trimmed (dataLine (List.replicate 64 120))) =
        .data (String.ofList (List.replicate 64 'x')) := by decide
    rw [List.replicate_succ, List.foldl_cons, Stream.collect_data hl, ih, List.append_assoc,
      List.singleton_append, ← List.replicate_succ]

theorem weight_replicate (n : ℕ) (value : String) :
    weight (List.replicate n value) = n * value.utf8ByteSize := by
  induction n with
  | zero => simp [weight]
  | succ n ih => rw [List.replicate_succ, weight, ih, Nat.succ_mul, Nat.add_comm]

theorem weight_fullLines : weight (fullLines.foldl Stream.collect []) = maxEventSize := by
  rw [collect_fullLines, List.nil_append, weight_replicate]
  decide

def lastLine : List UInt8 := dataLine [121]

def restLine : List UInt8 := dataLine [114, 101, 115, 116]

/-- A block that is oversized by its line before the last. -/
def overfull : Block where
  content := fullLines ++ [lastLine, restLine]
  blank := []
  spoken := List.forall_mem_append.mpr ⟨spoken_fullLines, by decide⟩
  ended := by decide

theorem collect_lastLine (data : List String) : Stream.collect data lastLine = data ++ ["y"] :=
  Stream.collect_data (by decide)

theorem bytes_overfull :
    overfull.bytes = Stream.unlines fullLines ++ (lastLine ++ [lineFeed]) ++
      (restLine ++ [lineFeed, lineFeed]) := by
  have hb : overfull.bytes = Stream.unlines (fullLines ++ [lastLine, restLine] ++ [[]]) := rfl
  rw [hb, Stream.unlines_append, Stream.unlines_append]
  simp [Stream.unlines]

theorem isOversized_overfull : overfull.isOversized = true := by
  have hrest : Stream.collect (fullLines.foldl Stream.collect [] ++ ["y"]) restLine =
      fullLines.foldl Stream.collect [] ++ ["y"] ++ ["rest"] := Stream.collect_data (by decide)
  have hd : overfull.data = fullLines.foldl Stream.collect [] ++ ["y"] ++ ["rest"] := by
    rw [Block.data, overfull, List.foldl_append, List.foldl_cons, collect_lastLine, List.foldl_cons,
      hrest, List.foldl_nil]
  rw [Block.isOversized, hd, weight_append, weight_append, weight_fullLines]
  decide

theorem refusal_overfull :
    Refusal [] (Stream.unlines fullLines ++ (lastLine ++ [lineFeed])) fullLines 1048577 := by
  have hlines := Stream.lines_unlines (fun raw hm ↦ (spoken_fullLines raw hm).1)
    (lastLine ++ [lineFeed])
  have hlast : Stream.lines (lastLine ++ [lineFeed]) = [lastLine] := by decide
  refine ⟨fits_of_spoken spoken_fullLines (Nat.le_of_eq weight_fullLines), by decide, Or.inl ?_⟩
  refine ⟨lastLine, [], hlines.trans (congrArg _ hlast), ?_⟩
  rw [collect_lastLine, weight_append, weight_fullLines]
  decide

theorem unrefused_fullLines : Unrefused [] [Stream.unlines fullLines] := by
  have hlines := Stream.lines_of_unlines fun raw hm ↦ (spoken_fullLines raw hm).1
  have htail := Stream.tail_of_unlines fun raw hm ↦ (spoken_fullLines raw hm).1
  have hweight := Nat.le_of_eq weight_fullLines
  refine ⟨fun before size ↦ Decoder.not_refusal_of_fits ?_ ?_, trivial⟩
  · rw [List.nil_append, hlines]
    exact fits_of_spoken spoken_fullLines hweight
  · rwa [List.nil_append, hlines, htail, List.length_nil, Nat.zero_add]

def nextBlock : Block :=
  ⟨[dataLine [110, 101, 120, 116]], [], by decide, by decide⟩

theorem cutWithin_overfull :
    CutWithin [] [nextBlock.bytes ++ (Stream.unlines fullLines ++ (lastLine ++ [lineFeed])),
      restLine ++ [lineFeed, lineFeed] ++ nextBlock.bytes] [nextBlock, overfull, nextBlock] := by
  have hroom : Room [] (([] ++ [restLine ++ [lineFeed, lineFeed] ++ nextBlock.bytes].flatten).splitOn
      lineFeed) := room_of_small (by decide)
  have hafter : CutWithin (restLine ++ [lineFeed, lineFeed])
      [restLine ++ [lineFeed, lineFeed] ++ nextBlock.bytes] [nextBlock] :=
    .unrefused (by simp [Block.stream]) (Decoder.unrefused_of_room hroom)
  have hbytes : ([] ++
      [nextBlock.bytes ++ (Stream.unlines fullLines ++ (lastLine ++ [lineFeed]))]).flatten =
      [] ++ Block.stream [nextBlock] ++ (Stream.unlines fullLines ++ (lastLine ++ [lineFeed])) := by
    simp [Block.stream]
  have hkeep : ∀ b ∈ [nextBlock], b.isOversized = false := by decide
  exact .refused hbytes bytes_overfull trivial trivial hkeep refusal_overfull hafter

/-- Where the bytes at hand at each refusal end within the refused block, a block has its results in its
place: a small one its event, and an oversized one that it is refused and then those of what is left of
it, as of a stream that begins there. -/
theorem refused_block_resumes (h : CutWithin [] chunks blocks) :
    chunks.flatten = Block.stream blocks ∧
      ∃ told, List.Forall₂ Block.Told blocks told ∧
        (Decoder.decodeChunks Decoder.drain .empty chunks).flatten = told.flatten := by
  have hb : [] <:+ nextBlock.bytes := List.nil_suffix
  obtain ⟨results, told, hresults, htold, he⟩ := h.exists_told hb
  rw [resumed_nil hresults, List.nil_append] at he
  exact ⟨h.flatten_eq, told, htold, he⟩

theorem refused_block_resumes_overfull :
    CutWithin [] [nextBlock.bytes ++ (Stream.unlines fullLines ++ (lastLine ++ [lineFeed])),
      restLine ++ [lineFeed, lineFeed] ++ nextBlock.bytes] [nextBlock, overfull, nextBlock] ∧
    ∃ told, List.Forall₂ Block.Told [nextBlock, overfull, nextBlock] told ∧
      (Decoder.decodeChunks Decoder.drain .empty
        [nextBlock.bytes ++ (Stream.unlines fullLines ++ (lastLine ++ [lineFeed])),
          restLine ++ [lineFeed, lineFeed] ++ nextBlock.bytes]).flatten = told.flatten :=
  ⟨cutWithin_overfull, (refused_block_resumes cutWithin_overfull).2⟩

/-- What is left of an oversized block makes an event of its own. -/
theorem overfull_yields_rest :
    [Stream.unlines fullLines, lastLine ++ [lineFeed], restLine ++ [lineFeed, lineFeed]].flatten =
      Block.stream [overfull] ∧
    overfull.isOversized = true ∧
    (Decoder.decodeChunks Decoder.drain .empty
      [Stream.unlines fullLines, lastLine ++ [lineFeed], restLine ++ [lineFeed, lineFeed]]).flatten =
      [.error (.tooLarge 1048577), .ok "rest"] := by
  have hbytes : [Stream.unlines fullLines, lastLine ++ [lineFeed],
      restLine ++ [lineFeed, lineFeed]].flatten = Block.stream [overfull] := by
    simp [Block.stream, bytes_overfull]
  have hr : Refusal [] ([Stream.unlines fullLines] ++ [lastLine ++ [lineFeed]]).flatten fullLines
      1048577 := by
    simpa using refusal_overfull
  have hread : Stream.read [] (fullLines ++ []) = [] := read_of_spoken spoken_fullLines []
  have hrest : (Decoder.decodeChunks Decoder.drain .empty
      [restLine ++ [lineFeed, lineFeed]]).flatten = [.ok "rest"] := by decide
  rw [List.append_nil] at hread
  refine ⟨hbytes, isOversized_overfull, ?_⟩
  refine (Decoder.decodeChunks_first_refusal unrefused_fullLines hr _).trans ?_
  rw [hread, hrest, List.nil_append]

end FleetControl.Telemetry
