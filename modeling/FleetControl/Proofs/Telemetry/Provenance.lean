import FleetControl.Proofs.Telemetry.Steps

namespace FleetControl.Telemetry

variable {data : List String} {raw bytes : List UInt8} {raws before block : List (List UInt8)}
  {earlier later : List (Except EventError String)} {event : String}

namespace Stream

def isBlank (raw : List UInt8) : Bool := (trimmed raw).isEmpty

def isText (raw : List UInt8) : Bool := (Text.decode? (trimmed raw)).isSome

def value? (raw : List UInt8) : Option String :=
  match Line.ofBytes (trimmed raw) with
  | .data value => some value
  | _ => none

/-- Some of the lines are a block: they are not blank, and they stand between two blank lines, or between
the beginning and a blank line. -/
structure IsBlock (raws before block : List (List UInt8)) : Prop where
  starts : ∀ raw ∈ before.getLast?, isBlank raw
  content : ∀ raw ∈ block, isBlank raw = false
  ends : ∃ blank after, raws = before ++ block ++ blank :: after ∧ isBlank blank

/-- What some bytes leave to an event that is not ended by them: the data of its lines, and a line that
goes on. -/
def carried (bytes : List UInt8) : ℕ :=
  weight ((lines bytes).foldl collect []) + (tail bytes).length

theorem read_eq_append (h : read data raws = earlier ++ .ok event :: later) :
    ∃ done blank after, raws = done ++ blank :: after ∧ isBlank blank ∧ earlier = read data done ∧
      done.foldl collect data ≠ [] ∧ event = "\n".intercalate (done.foldl collect data) := by
  induction raws generalizing data earlier with
  | nil => simp [read] at h
  | cons raw raws ih =>
    rw [read_cons_eq] at h
    have hone := length_yielded_le data raw
    cases hy : yielded data raw with
    | nil =>
      rw [hy, List.nil_append] at h
      obtain ⟨done, blank, after, rfl, hb, rfl, hne, he⟩ := ih h
      refine ⟨raw :: done, blank, after, rfl, hb, ?_, hne, he⟩
      rw [read_cons_eq, hy, List.nil_append]
    | cons result none =>
      obtain rfl : none = [] := by simpa [hy] using hone
      rw [hy, List.singleton_append] at h
      cases earlier with
      | nil =>
        obtain ⟨rfl, -⟩ := List.cons.inj h
        obtain ⟨hb, hne, he⟩ := yielded_eq_ok hy
        exact ⟨[], raw, raws, rfl, hb, rfl, hne, he⟩
      | cons first earlier =>
        obtain ⟨rfl, hrest⟩ := List.cons.inj h
        obtain ⟨done, blank, after, rfl, hb, rfl, hne, he⟩ := ih hrest
        refine ⟨raw :: done, blank, after, rfl, hb, ?_, hne, he⟩
        rw [read_cons_eq, hy, List.singleton_append]

theorem collect_content (h : isBlank raw = false) :
    collect data raw = data ++ (value? raw).toList := by
  unfold collect value?
  cases hl : Line.ofBytes (trimmed raw) with
  | blank =>
    rw [isBlank, Line.ofBytes_eq_blank.mp hl] at h
    cases h
  | data value => rfl
  | passedOver => exact (List.append_nil data).symm
  | malformed => exact (List.append_nil data).symm

theorem foldl_collect_content (h : ∀ raw ∈ block, isBlank raw = false) :
    block.foldl collect data = data ++ block.filterMap value? := by
  induction block generalizing data with
  | nil => simp
  | cons raw block ih =>
    rw [List.forall_mem_cons] at h
    rw [List.foldl_cons, collect_content h.1, ih h.2, List.append_assoc]
    cases hv : value? raw <;> simp [hv]

theorem foldl_collect_blank (h : ∀ raw ∈ before.getLast?, isBlank raw) :
    before.foldl collect [] = [] := by
  rcases List.eq_nil_or_concat before with rfl | ⟨init, last, rfl⟩
  · rfl
  · rw [List.concat_eq_append, List.foldl_append]
    exact collect_of_blank (h last (by simp))

theorem exists_open_block (raws : List (List UInt8)) :
    ∃ before block, raws = before ++ block ∧ (∀ raw ∈ before.getLast?, isBlank raw) ∧
      ∀ raw ∈ block, isBlank raw = false := by
  induction raws using List.reverseRecOn with
  | nil => exact ⟨[], [], rfl, by simp, by simp⟩
  | append_singleton raws raw ih =>
    cases hb : isBlank raw with
    | true => exact ⟨raws ++ [raw], [], by simp, by simpa using hb, by simp⟩
    | false =>
      obtain ⟨before, block, rfl, hstarts, hcontent⟩ := ih
      refine ⟨before, block ++ [raw], by simp, hstarts, ?_⟩
      exact List.forall_mem_append.mpr ⟨hcontent, by simpa using hb⟩

theorem unlines_lines (bytes : List UInt8) : unlines (lines bytes) ++ tail bytes = bytes := by
  induction bytes using lines_induction with
  | tail bytes h =>
    rw [lines_of_not_mem h, tail_of_not_mem h]
    rfl
  | line raw bytes h ih =>
    rw [lines_line h, tail_line h, unlines_cons, List.append_assoc, List.cons_append, ih]

theorem unlines_eq_nil : unlines raws = [] ↔ raws = [] := by
  cases raws with
  | nil => exact iff_of_true rfl rfl
  | cons raw raws => simp [unlines_cons]

theorem lines_append_of_not_mem {start : List UInt8} {rest : List (List UInt8)} (h : lineFeed ∉ start)
    (hl : lines bytes = raw :: rest) : lines (start ++ bytes) = (start ++ raw) :: rest := by
  cases bytes using lines_induction with
  | tail bytes hb => simp [lines_of_not_mem hb] at hl
  | line first bytes hfirst =>
    rw [lines_line hfirst] at hl
    obtain ⟨rfl, rfl⟩ := List.cons.inj hl
    rw [← List.append_assoc, lines_line (by simp [h, hfirst])]

theorem block_of_rest {lost rest : List UInt8} (h : IsBlock (lines rest) before block)
    (hne : block ≠ []) :
    (∃ before', IsBlock (lines (lost ++ rest)) before' block) ∨
      ∃ before' whole opened, IsBlock (lines (lost ++ rest)) before' whole ∧ opened ≠ [] ∧
        lost = unlines before' ++ opened ∧ unlines whole = opened ++ unlines (before ++ block) := by
  obtain ⟨hstarts, hcontent, blank, after, hl, hblank⟩ := h
  obtain ⟨before₀, opened, hlost, hstarts₀, hopened⟩ := exists_open_block (lines lost)
  have hbytes : lost = unlines before₀ ++ (unlines opened ++ tail lost) := by
    rw [← List.append_assoc, ← unlines_append, ← hlost, unlines_lines]
  have hfirst {first : List UInt8} {others : List (List UInt8)} (hf : lines rest = first :: others) :
      lines (lost ++ rest) = lines lost ++ (tail lost ++ first) :: others := by
    rw [lines_append, lines_append_of_not_mem (lineFeed_not_mem_tail lost) hf]
  -- The block that is open at the cut goes on with the line that is cut.
  have hright {first : List UInt8} {others : List (List UInt8)}
      (hf : lines rest = first :: (others ++ blank :: after))
      (hcut : isBlank (tail lost ++ first) = false) (hothers : ∀ raw ∈ others, isBlank raw = false) :
      IsBlock (lines (lost ++ rest)) before₀ (opened ++ (tail lost ++ first) :: others) ∧
        unlines (opened ++ (tail lost ++ first) :: others) =
          unlines opened ++ tail lost ++ unlines (first :: others) := by
    refine ⟨⟨hstarts₀, ?_, blank, after, ?_, hblank⟩, ?_⟩
    · exact List.forall_mem_append.mpr ⟨hopened, List.forall_mem_cons.mpr ⟨hcut, hothers⟩⟩
    · simp [hfirst hf, hlost]
    · simp [unlines_append, unlines_cons]
  cases before with
  | nil =>
    obtain ⟨first, others, rfl⟩ := List.exists_cons_of_ne_nil hne
    obtain ⟨hb, hothers⟩ := List.forall_mem_cons.mp hcontent
    by_cases hclosed : unlines opened ++ tail lost = []
    · obtain ⟨hnone, ht⟩ := List.append_eq_nil_iff.mp hclosed
      obtain rfl : opened = [] := unlines_eq_nil.mp hnone
      refine Or.inl ⟨before₀, hstarts₀, hcontent, blank, after, ?_, hblank⟩
      simp [hfirst hl, hlost, ht]
    · have hcut : isBlank (tail lost ++ first) = false :=
        Bool.eq_false_iff.mpr fun he ↦ Bool.eq_false_iff.mp hb (blank_of_append he)
      obtain ⟨hwhole, hunlines⟩ := hright hl hcut hothers
      exact Or.inr ⟨before₀, _, _, hwhole, hclosed, hbytes, hunlines⟩
  | cons first before =>
    have hall := hfirst hl
    rcases List.eq_nil_or_concat before with rfl | ⟨init, last, rfl⟩
    · cases hcut : isBlank (tail lost ++ first) with
      | true =>
        refine Or.inl ⟨lines lost ++ [tail lost ++ first], ?_, hcontent, blank, after, ?_, hblank⟩
        · simpa using hcut
        · simp [hall]
      | false =>
        obtain ⟨hwhole, hunlines⟩ := hright hl hcut hcontent
        refine Or.inr ⟨before₀, _, _, hwhole, fun hclosed ↦ ?_, hbytes, hunlines⟩
        rw [(List.append_eq_nil_iff.mp hclosed).2, List.nil_append] at hcut
        exact Bool.eq_false_iff.mp hcut (hstarts first (by simp))
    · refine Or.inl ⟨lines lost ++ (tail lost ++ first) :: (init ++ [last]), ?_, hcontent, blank,
        after, ?_, hblank⟩
      · simpa [List.getLast?_cons] using hstarts
      · simp [hall]

end Stream

namespace Decoder

theorem unrefused_or_refused (bytes : List UInt8) (chunks : List (List UInt8)) :
    Unrefused bytes chunks ∨ ∃ before chunk more raws size, chunks = before ++ chunk :: more ∧
      Unrefused bytes before ∧ Refusal [] (bytes ++ (before ++ [chunk]).flatten) raws size := by
  induction chunks generalizing bytes with
  | nil => exact Or.inl trivial
  | cons chunk chunks ih =>
    by_cases hr : ∃ raws size, Refusal [] (bytes ++ chunk) raws size
    · obtain ⟨raws, size, hr⟩ := hr
      exact Or.inr ⟨[], chunk, chunks, raws, size, rfl, trivial, by simpa using hr⟩
    · have hnone : ∀ raws size, ¬Refusal [] (bytes ++ chunk) raws size :=
        fun raws size h ↦ hr ⟨raws, size, h⟩
      rcases ih (bytes ++ chunk) with hu | ⟨before, last, more, raws, size, rfl, hu, hr⟩
      · exact Or.inl ⟨hnone, hu⟩
      · exact Or.inr ⟨chunk :: before, last, more, raws, size, rfl, ⟨hnone, hu⟩, by simpa using hr⟩

theorem Refusal.lines_eq {before : List (List UInt8)} {size : ℕ} (h : Refusal data bytes before size) :
    ∃ more, Stream.lines bytes = before ++ more := by
  rcases h.reached with ⟨raw, more, hl, -⟩ | ⟨hl, -⟩
  · exact ⟨_, hl⟩
  · exact ⟨[], by rw [hl, List.append_nil]⟩

def EndsRefused (chunks : List (List UInt8)) : Prop :=
  chunks = [] ∨
    ∃ size, (decodeChunks drain empty chunks).flatten.getLast? = some (.error (.tooLarge size))

theorem event_of_lines {chunks : List (List UInt8)}
    (h : (decodeChunks drain empty chunks).flatten = earlier ++ .ok event :: later) :
    ∃ lost rest done blank after, chunks = lost ++ rest ∧ EndsRefused lost ∧
      Stream.lines rest.flatten = done ++ blank :: after ∧ Stream.isBlank blank ∧
      earlier = (decodeChunks drain empty lost).flatten ++ Stream.read [] done ∧
      done.foldl Stream.collect [] ≠ [] ∧ event = "\n".intercalate (done.foldl Stream.collect []) := by
  -- A refusal takes the chunks up to it, and the event is among the results of the others.
  induction hn : chunks.length using Nat.strongRecOn generalizing chunks earlier with
  | ind n ih =>
  rcases unrefused_or_refused [] chunks with hu | ⟨before, chunk, more, raws, size, rfl, hu, hr⟩
  · rw [decodeChunks_events hu] at h
    obtain ⟨done, blank, after, hl, hb, he, hne, hevent⟩ := Stream.read_eq_append h
    exact ⟨[], chunks, done, blank, after, rfl, Or.inl rfl, hl, hb, he, hne, hevent⟩
  · have hresults := decodeChunks_first_refusal hu hr
    rw [hresults more] at h
    rcases List.append_eq_append_iff.mp h with ⟨more', rfl, hmore⟩ | ⟨later', hread, hlater⟩
    · cases more' with
      | nil => cases hmore
      | cons first earlier' =>
        obtain ⟨rfl, hrest⟩ := List.cons.inj hmore
        have hlt : more.length < n := by
          rw [← hn, List.length_append, List.length_cons]
          omega
        obtain ⟨lost, rest, done, blank, after, rfl, hlost, hl, hb, rfl, hne, hevent⟩ :=
          ih more.length hlt hrest rfl
        refine ⟨before ++ chunk :: lost, rest, done, blank, after, by simp, Or.inr ?_, hl, hb, ?_, hne,
          hevent⟩
        · rw [hresults lost]
          rcases hlost with rfl | ⟨size', hlast⟩
          · exact ⟨size, by simp [decodeChunks]⟩
          · exact ⟨size', by simp [List.getLast?_append, List.getLast?_cons, hlast]⟩
        · rw [hresults lost, List.append_assoc, List.cons_append]
    · obtain ⟨first, hfirst⟩ : ∃ first, later' = .ok event :: first := by
        cases later' with
        | nil => cases hlater
        | cons first later' => exact ⟨later', by rw [(List.cons.inj hlater).1]⟩
      rw [hfirst] at hread
      obtain ⟨done, blank, after, hl, hb, he, hne, hevent⟩ := Stream.read_eq_append hread
      obtain ⟨more', hmore⟩ := hr.lines_eq
      have hflat : (before ++ chunk :: more).flatten =
          [] ++ (before ++ [chunk]).flatten ++ more.flatten := by simp
      have hlines := Stream.lines_append ([] ++ (before ++ [chunk]).flatten) more.flatten
      rw [← hflat, hmore, hl, List.append_assoc, List.append_assoc, List.cons_append] at hlines
      exact ⟨[], _, done, blank, _, rfl, Or.inl rfl, hlines, hb, he, hne, hevent⟩

end Decoder

/-- An event is made of the lines of a block, or of those that are left of it behind a refusal. -/
theorem event_of_block {chunks : List (List UInt8)}
    (h : (Decoder.decodeChunks Decoder.drain .empty chunks).flatten = earlier ++ .ok event :: later) :
    ∃ lost rest before block, chunks = lost ++ rest ∧ Decoder.EndsRefused lost ∧
      Stream.IsBlock (Stream.lines rest.flatten) before block ∧
      earlier = (Decoder.decodeChunks Decoder.drain .empty lost).flatten ++
        Stream.read [] (before ++ block) ∧
      block.filterMap Stream.value? ≠ [] ∧
      ((∃ before', Stream.IsBlock (Stream.lines chunks.flatten) before' block ∧
          ((∀ raw ∈ block, Stream.isText raw) →
            event = "\n".intercalate (block.filterMap Stream.value?))) ∨
        ∃ before' whole opened, Stream.IsBlock (Stream.lines chunks.flatten) before' whole ∧
          opened ≠ [] ∧ lost.flatten = Stream.unlines before' ++ opened ∧
          Stream.unlines whole = opened ++ Stream.unlines (before ++ block) ∧
          (maxEventSize < Stream.carried opened → (∀ raw ∈ block, Stream.isText raw) →
            event = "\n".intercalate (block.filterMap Stream.value?))) := by
  obtain ⟨lost, rest, done, blank, after, rfl, hlost, hl, hb, rfl, hne, rfl⟩ :=
    Decoder.event_of_lines h
  obtain ⟨before, block, rfl, hstarts, hcontent⟩ := Stream.exists_open_block done
  have hcollect : (before ++ block).foldl Stream.collect [] = block.filterMap Stream.value? := by
    rw [List.foldl_append, Stream.foldl_collect_blank hstarts,
      Stream.foldl_collect_content hcontent, List.nil_append]
  have hblock : Stream.IsBlock (Stream.lines rest.flatten) before block :=
    ⟨hstarts, hcontent, blank, after, hl, hb⟩
  rw [hcollect] at hne ⊢
  refine ⟨lost, rest, before, block, rfl, hlost, hblock, rfl, hne, ?_⟩
  rw [List.flatten_append]
  have hsome : block ≠ [] := fun he ↦ hne (by rw [he]; rfl)
  rcases Stream.block_of_rest hblock hsome with ⟨before', hwhole⟩ | ⟨before', whole, opened, hwhole, hrest⟩
  · exact Or.inl ⟨before', hwhole, fun _ ↦ rfl⟩
  · exact Or.inr ⟨before', whole, opened, hwhole, hrest.1, hrest.2.1, hrest.2.2, fun _ _ ↦ rfl⟩

/-- A line that is no text is passed over with its error; the others make up the event. -/
example : Decoder.decodeChunks Decoder.drain .empty
    [dataLine [97] ++ [lineFeed], dataLine [255] ++ [lineFeed],
      dataLine [98] ++ [lineFeed, lineFeed]] = [[], [.error .notText], [.ok "a\nb"]] := by
  rfl

def overfullChunks : List (List UInt8) :=
  [Stream.unlines fullLines, lastLine ++ [lineFeed], restLine ++ [lineFeed, lineFeed]]

theorem decodeChunks_overfull : (Decoder.decodeChunks Decoder.drain .empty overfullChunks).flatten =
    [.error (.tooLarge 1048577)] ++ .ok "rest" :: [] := by
  have hr : Decoder.Refusal [] ([Stream.unlines fullLines] ++ [lastLine ++ [lineFeed]]).flatten
      fullLines 1048577 := by
    simpa using refusal_overfull
  have hread : Stream.read [] (fullLines ++ []) = [] := read_of_spoken spoken_fullLines []
  have hrest : (Decoder.decodeChunks Decoder.drain .empty
      [restLine ++ [lineFeed, lineFeed]]).flatten = [.ok "rest"] := by rfl
  rw [List.append_nil] at hread
  refine (Decoder.decodeChunks_first_refusal unrefused_fullLines hr _).trans ?_
  rw [hread, hrest]
  rfl

theorem event_of_block_rest : ∃ lost rest before block, overfullChunks = lost ++ rest ∧
    Decoder.EndsRefused lost ∧ Stream.IsBlock (Stream.lines rest.flatten) before block ∧
    block.filterMap Stream.value? ≠ [] := by
  obtain ⟨lost, rest, before, block, hc, hlost, hblock, -, hne, -⟩ :=
    event_of_block decodeChunks_overfull
  exact ⟨lost, rest, before, block, hc, hlost, hblock, hne⟩

theorem Block.isBlank_of_mem_content {b : Block} (h : raw ∈ b.content) : Stream.isBlank raw = false :=
  not_blank_of_spoken (b.spoken raw h)

theorem Block.isBlock_lines {b : Block} (h : Stream.IsBlock b.lines before block) :
    before = [] ∧ block = b.content := by
  obtain ⟨hstarts, -, blank, after, hl, hblank⟩ := h
  have hall : b.content = before ++ block := by
    rcases List.eq_nil_or_concat after with rfl | ⟨init, last, rfl⟩
    · exact (List.append_inj' hl rfl).1
    · rw [List.concat_eq_append, ← List.cons_append, ← List.append_assoc] at hl
      have hmem : blank ∈ b.content := by
        rw [(List.append_inj' hl rfl).1]
        simp
      exact absurd hblank (Bool.eq_false_iff.mp (isBlank_of_mem_content hmem))
  rcases List.eq_nil_or_concat before with rfl | ⟨init, last, rfl⟩
  · exact ⟨rfl, hall.symm⟩
  · have hlast := hstarts last (by simp)
    have hmem : last ∈ b.content := by
      rw [hall]
      simp
    exact absurd hlast (Bool.eq_false_iff.mp (isBlank_of_mem_content hmem))

theorem Block.data_eq (b : Block) : b.data = b.content.filterMap Stream.value? := by
  rw [Block.data, Stream.foldl_collect_content fun _ ↦ isBlank_of_mem_content, List.nil_append]

/-- The event that is made of the rest of an oversized block is that of no whole block. -/
theorem overfull_rest_of_no_block :
    .ok "rest" ∈ (Decoder.decodeChunks Decoder.drain .empty overfullChunks).flatten ∧
    ∀ before block, Stream.IsBlock (Stream.lines overfullChunks.flatten) before block →
      "rest" ≠ "\n".intercalate (block.filterMap Stream.value?) := by
  have hbytes : overfullChunks.flatten = overfull.bytes := by
    simp [overfullChunks, bytes_overfull]
  constructor
  · rw [decodeChunks_overfull]
    simp
  · intro before block hblock hevent
    rw [hbytes, Block.lines_bytes] at hblock
    obtain ⟨-, rfl⟩ := Block.isBlock_lines hblock
    rw [← Block.data_eq] at hevent
    have hlarge : maxEventSize < weight overfull.data := by
      simpa [Block.isOversized] using isOversized_overfull
    have hne : overfull.data ≠ [] := fun he ↦ by simp [he, weight] at hlarge
    have hsize := utf8ByteSize_intercalate hne
    have hshort : ("rest" : String).utf8ByteSize = 4 := rfl
    have hmax : maxEventSize = 1048576 := rfl
    rw [← hevent, hshort] at hsize
    omega

end FleetControl.Telemetry
