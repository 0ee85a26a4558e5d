import Cruciverb.Proofs.Import.ExportLines

namespace Cruciverb.Import

open Cruciverb.Answer Cruciverb.Text

variable {t : ClueTable} {s : Shape}

-- No cell has another letter than the answers of a puzzle are made of.
def Lettered (s : Shape) : Prop := ∀ c l, s.cell c = .open (some l) → isCapital l = true

theorem plain_scan (h : Lettered s) (c : Coord) (d : Direction) : Plain (s.scan c d) := by
  intro l hl
  obtain ⟨n, hn⟩ := List.mem_iff_getElem?.mp hl
  obtain ⟨-, hcell⟩ := Shape.getElem?_scan.mp hn
  cases hopen : s.cell (c.move d n) with
  | block =>
    rw [hopen] at hcell
    cases hcell
  | «open» letter =>
    rw [hopen, Cell.letter?_open, Option.some.injEq] at hcell
    cases letter with
    | none => exact .inr hcell.symm
    | some m =>
      obtain rfl : m = l := hcell
      exact .inl (h _ _ hopen)

-- The document of the lines, with nothing but its size above them.
def exportText (s : Shape) (lines : Both (List ClueLine)) : String :=
  Document.text ⟨[("size", toString s.size ++ "x" ++ toString s.size)], lines⟩

theorem tells_written (h : Lettered s) {e : Nat × NumberedCell} (he : e ∈ s.numbering.entries)
    {d : Direction} {slot : List Char} (hslot : e.2.starts.get d = some slot) {line : ClueLine}
    (hline : LineOf e.1 e.2.position slot line) : (Clue.written line).Tells d e := by
  obtain ⟨hid, hposition, -, f, hfills, hpos, hanswer⟩ := hline
  obtain ⟨hstarts, hscan⟩ := Shape.get_starts_of_mem_numbering he hslot
  have hplain : Plain slot := hscan ▸ plain_scan h _ d
  have hne : slot ≠ [] := hscan ▸ Shape.scan_ne_nil hstarts
  have htext : (Clue.written line).answer.toList = f.apply slot := by
    show line.answer.toList = _
    rw [hanswer, String.toList_ofList]
  refine ⟨hid, hposition, ?_, ?_⟩
  · rw [htext, Format.lettersOf_apply hplain hfills hne, hslot]
  · rw [htext]
    exact Format.words_apply_ne_nil hplain hfills hne hpos

theorem isAnswer_of_lineOf (h : Lettered s) {e : Nat × NumberedCell} (he : e ∈ s.numbering.entries)
    {d : Direction} {slot : List Char} (hslot : e.2.starts.get d = some slot) {line : ClueLine}
    (hline : LineOf e.1 e.2.position slot line) : Line.isAnswer line.answer.toList = true := by
  obtain ⟨-, -, -, f, hfills, -, hanswer⟩ := hline
  obtain ⟨hstarts, hscan⟩ := Shape.get_starts_of_mem_numbering he hslot
  have hplain : Plain slot := hscan ▸ plain_scan h _ d
  have hne : slot ≠ [] := hscan ▸ Shape.scan_ne_nil hstarts
  rw [hanswer, String.toList_ofList, Line.isAnswer, Format.isLettered_apply hplain hfills hne,
    Bool.true_or]

theorem length_positions (s : Shape) : s.positions.length = s.size * s.size := by
  simp [Shape.positions]

theorem id_le_of_mem_numbering {e : Nat × NumberedCell} (he : e ∈ s.numbering.entries) :
    e.1 ≤ s.size * s.size := by
  have hkey : e.1 ∈ s.numbering.keys := List.mem_map_of_mem he
  rw [Shape.keys_numbering, List.mem_range'_1] at hkey
  have hle : s.startingCells.length ≤ s.size * s.size := by
    calc s.startingCells.length
        ≤ (s.positions.map fun c => NumberedCell.mk c (s.startsAt c)).length :=
          List.length_filter_le _ _
      _ = s.size * s.size := by rw [List.length_map, length_positions]
  omega

theorem writable_of_lineOf (h : Lettered s) {dims : Dimensions} (hsize : dims.side = s.size)
    {e : Nat × NumberedCell} (he : e ∈ s.numbering.entries) {d : Direction} {slot : List Char}
    (hslot : e.2.starts.get d = some slot) {line : ClueLine}
    (hline : LineOf e.1 e.2.position slot line) : line.Writable := by
  obtain ⟨hstarts, -⟩ := Shape.get_starts_of_mem_numbering he hslot
  obtain ⟨-, hx, -, hy⟩ := Shape.within_of_open (Shape.not_isBlock_of_starts hstarts)
  have hid := id_le_of_mem_numbering he
  have hside : s.size ≤ 17 := by
    rw [← hsize]
    cases dims <;> decide
  have hsquare : s.size * s.size ≤ 17 * 17 := Nat.mul_le_mul hside hside
  refine ⟨?_, ?_, ?_, hline.body, isAnswer_of_lineOf h he hslot hline⟩
  · rw [hline.position]
    exact Nat.lt_of_le_of_lt (Nat.le_trans hx hside) (by decide)
  · rw [hline.position]
    exact Nat.lt_of_le_of_lt (Nat.le_trans hy hside) (by decide)
  · rw [hline.id]
    exact Nat.lt_of_le_of_lt (Nat.le_trans hid hsquare) (by decide)

-- The lines of all slots, by ascending number.
def slotLines (t : ClueTable) (s : Shape) : Both (List ClueLine) :=
  Both.of fun d => s.numbering.entries.filterMap (slotLine? t d)

theorem exists_of_slotLine? (htable : Describes t s) (hsize : s.size < wordLimit)
    {e : Nat × NumberedCell} (he : e ∈ s.numbering.entries) {d : Direction} {line : ClueLine}
    (hline : slotLine? t d e = some line) :
    ∃ slot, e.2.starts.get d = some slot ∧ LineOf e.1 e.2.position slot line := by
  obtain ⟨slot, hslot, -⟩ := Option.bind_eq_some_iff.mp hline
  obtain ⟨line', -, hline', hof⟩ := exists_slotLine htable hsize he hslot
  rw [hline, Option.some.injEq] at hline'
  exact ⟨slot, hslot, hline' ▸ hof⟩

theorem read_exportText (h : Lettered s) (htable : Describes t s) {dims : Dimensions}
    (hsize : dims.side = s.size) :
    Puzzle.read (exportText s (slotLines t s)) =
      { source := exportText s (slotLines t s)
        dimensions := dims
        clues := (slotLines t s).map (·.map Clue.written) } := by
  have hlt : s.size < wordLimit := by
    rw [← hsize]
    cases dims <;> decide
  have hfields : [("size", toString s.size ++ "x" ++ toString s.size)] =
      [Heading.size dims].map Heading.entry := by
    rw [← hsize]
    rfl
  have hwritable : ∀ d, ∀ line ∈ (slotLines t s).get d, line.Writable := by
    intro d line hline
    rw [slotLines, Both.get_of, List.mem_filterMap] at hline
    obtain ⟨e, he, hline⟩ := hline
    obtain ⟨slot, hslot, hof⟩ := exists_of_slotLine? htable hlt he hline
    exact writable_of_lineOf h hsize he hslot hof
  have hread := @Document.read_text ⟨_, slotLines t s⟩ [.size dims] hfields
    (by simp [Heading.Readable]) hwritable
  exact hread

theorem draws_read (h : Lettered s) (htable : Describes t s) {dims : Dimensions}
    (hsize : dims.side = s.size) :
    (Puzzle.read (exportText s (slotLines t s))).Draws s fun d e =>
      (slotLine? t d e).map Clue.written := by
  have hlt : s.size < wordLimit := by
    rw [← hsize]
    cases dims <;> decide
  rw [read_exportText h htable hsize]
  refine ⟨hsize, ?_, ?_, ?_⟩
  · intro d
    rw [Both.get_map, slotLines, Both.get_of, List.map_filterMap]
  · intro d e he c hc
    obtain ⟨line, hline, rfl⟩ := Option.map_eq_some_iff.mp hc
    obtain ⟨slot, hslot, hof⟩ := exists_of_slotLine? htable hlt he hline
    exact tells_written h he hslot hof
  · intro d e he slot hslot
    obtain ⟨line, -, hline, -⟩ := exists_slotLine htable hlt he hslot
    exact ⟨_, by rw [hline]; rfl⟩

-- An export rebuilds its grid.
theorem read_export_rebuilds (s : Shape) (t : ClueTable) (hsize : s.size = 15 ∨ s.size = 17)
    (hslot : ∃ c d, s.starts c d = true) (hletters : Lettered s) (htable : Describes t s) :
    ∃ lines, exportLines t (numberAnswers s) (numberPlaces s).entries = .ok lines ∧
      ∃ p, Puzzle.read (exportText s lines) = p ∧ p.errors = [] ∧ p.validate.errors = [] ∧
        (∀ c, c.Within s.size →
          (s.InSlot c → ∃ letter, s.cell c = .open letter ∧
            p.validate.cell? c = some (letter.getD star)) ∧
          (¬ s.InSlot c → p.validate.cell? c = some blankCell)) ∧
        p.validate.answers = some (Both.of fun d =>
          s.numbering.entries.filterMap fun e => (e.2.starts.get d).map String.ofList) := by
  obtain ⟨dims, hdims⟩ : ∃ dims : Dimensions, dims.side = s.size := by
    rcases hsize with h | h
    · exact ⟨.fifteen, h.symm⟩
    · exact ⟨.seventeen, h.symm⟩
  have hlt : s.size < wordLimit := by rcases hsize with h | h <;> rw [h] <;> decide
  have hsquare : s.size * s.size < wordLimit := by rcases hsize with h | h <;> rw [h] <;> decide
  have hdraws := draws_read hletters htable hdims
  have herrors : (Puzzle.read (exportText s (slotLines t s))).errors = [] := by
    rw [read_exportText hletters htable hdims]
  have hout := (Puzzle.legible_read _).outcome herrors (hdraws.lawful hslot)
  refine ⟨slotLines t s, exportLines_numbering htable hlt, _, rfl, herrors, hout.errors, ?_, ?_⟩
  · intro c hc
    obtain ⟨hin, hblank⟩ := hdraws.cell?_eq hout hsquare hc
    refine ⟨fun hslot => ?_, hblank⟩
    have hopen := hslot.isBlock_eq_false
    rw [hin hslot]
    cases hcell : s.cell c with
    | block =>
      rw [Shape.isBlock, hcell] at hopen
      cases hopen
    | «open» letter => exact ⟨letter, rfl, rfl⟩
  · rw [hout.answers]
    apply congrArg some
    apply Both.ext_get
    intro d
    rw [Both.get_map, Both.get_of]
    exact hdraws.get_answers_eq d

-- Two words that cross in a corner, one letter of them unknown.
def cornerCells : List Cell :=
  [Cell.open (some 'C'), Cell.open (some 'A'), Cell.open (some 'T')] ++ List.replicate 12 Cell.block ++
    [Cell.open none] ++ List.replicate 14 Cell.block ++ [Cell.open (some 'D')] ++
    List.replicate 194 Cell.block

def cornerShape : Shape := ⟨15, cornerCells.toArray⟩

def cornerTable : ClueTable where
  across := .ofList [(1, ⟨"Pet", "3", none⟩)]
  down := .ofList [(1, ⟨"Fish", "1,2", some (prefixText .empty [⟨1, .down, 3⟩, ⟨2, .down, 3⟩])⟩)]

theorem read_export_rebuilds_corner :
    ∃ lines, exportLines cornerTable (numberAnswers cornerShape) (numberPlaces cornerShape).entries =
        .ok lines ∧
      ∃ p, Puzzle.read (exportText cornerShape lines) = p ∧ p.validate.errors = [] ∧
        p.validate.cell? ⟨1, 2⟩ = some '*' ∧ p.validate.cell? ⟨2, 2⟩ = some blankCell ∧
        p.validate.answers = some ⟨["CAT"], ["C*D"]⟩ := by
  have hslot : cornerShape.starts ⟨1, 1⟩ .down = true := by decide +kernel
  have hletters : Lettered cornerShape := by
    intro c l hl
    rcases cornerShape.cell_eq_block_or_mem c with h | h
    · rw [hl] at h
      cases h
    · rw [hl, cornerShape, List.mem_toArray] at h
      have hl : l = 'C' ∨ l = 'A' ∨ l = 'T' ∨ l = 'D' := by
        simpa [-List.reduceReplicate, cornerCells, List.mem_replicate, or_assoc] using h
      rcases hl with rfl | rfl | rfl | rfl
      all_goals rfl
  have hentries : cornerShape.numbering.entries =
      [(1, ⟨⟨1, 1⟩, ⟨some "CAT".toList, some "C*D".toList⟩⟩)] := by decide +kernel
  have htable : Describes cornerTable cornerShape := by
    rw [Describes, hentries]
    rintro e he d slot hd
    obtain rfl := List.mem_singleton.mp he
    cases d with
    | across =>
      cases hd
      refine ⟨⟨"Pet", "3", none⟩, rfl, by decide, by decide, by decide, ?_, ?_⟩
      · rintro others ⟨⟩
      · exact ⟨Format.ofLengths [3], by decide +kernel, by simp [Format.ofLengths], by decide⟩
    | down =>
      cases hd
      refine ⟨_, rfl, by decide, by decide, by decide, ?_, ?_⟩
      · rintro others ⟨⟩
        exact ⟨_, _, rfl⟩
      · exact ⟨Format.ofLengths [1, 2], by decide +kernel, by simp [Format.ofLengths], by decide⟩
  obtain ⟨lines, hlines, p, hp, -, hvalid, hcells, hanswers⟩ :=
    read_export_rebuilds cornerShape cornerTable (.inl rfl) ⟨_, _, hslot⟩ hletters htable
  have hin : cornerShape.InSlot ⟨1, 2⟩ := ⟨⟨1, 1⟩, .down, 1, hslot, by decide +kernel, rfl⟩
  have hout : ¬ cornerShape.InSlot ⟨2, 2⟩ := fun h => by
    have hblock : cornerShape.isBlock ⟨2, 2⟩ = true := by decide +kernel
    rw [h.isBlock_eq_false] at hblock
    cases hblock
  refine ⟨lines, hlines, p, hp, hvalid, ?_, (hcells ⟨2, 2⟩ (by decide)).2 hout, ?_⟩
  · obtain ⟨letter, hletter, hcell⟩ := (hcells ⟨1, 2⟩ (by decide)).1 hin
    have hnone : cornerShape.cell ⟨1, 2⟩ = .open none := by decide +kernel
    rw [hnone] at hletter
    cases hletter
    exact hcell
  · rw [hanswers, hentries]
    rfl

end Cruciverb.Import
