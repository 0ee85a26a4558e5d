import Cruciverb.Proofs.Compilation
import Cruciverb.Proofs.Derived
import Cruciverb.Proofs.Picture
import Cruciverb.Proofs.Puzzle.Numbers

namespace Cruciverb

open Cruciverb.Answer Cruciverb.Text

theorem Answer.isLineEnd_of_plain {letters : List Char} (h : Plain letters) {c : Char}
    (hc : c ∈ letters) : isLineEnd c = false := by
  rw [isLineEnd, Bool.or_eq_false_iff, beq_eq_false_iff_ne, beq_eq_false_iff_ne]
  constructor
  · rintro rfl
    exact absurd (h _ hc) (by decide)
  · rintro rfl
    exact absurd (h _ hc) (by decide)

namespace Entry

def Covers (e : Entry) (c : Coord) : Prop := ∃ l, e.Puts c l

theorem Sound.covers_position {side : Nat} {e : Entry} (h : e.Sound side) : e.Covers e.position := by
  obtain ⟨l, rest, hletters⟩ := List.exists_cons_of_ne_nil (lettersOf_ne_nil h.words)
  refine ⟨l, 0, Coord.move_zero _ _, ?_⟩
  rw [letters, hletters]
  rfl

end Entry

theorem Shows.letter_or_blank {side : Nat} {es : List Entry} {grid : List Char} (hg : Shows side es grid)
    {l : Char} (hl : l ∈ grid) : l = blankCell ∨ ∃ e ∈ es, l ∈ e.letters := by
  rw [or_iff_not_imp_left]
  intro hne
  obtain ⟨i, hi, rfl⟩ := List.mem_iff_getElem.mp hl
  have hcell : grid[(Coord.ofIndex side i).flatIndex side]? = some grid[i] := by
    rw [Coord.flatIndex_ofIndex, List.getElem?_eq_getElem hi]
  have hwithin := Coord.within_ofIndex (hg.length ▸ hi)
  obtain ⟨e, he, hput⟩ := hg.puts_of_ne_blank hwithin hcell hne
  exact ⟨e, he, hput.mem_letters⟩

namespace Puzzle

-- One grid in a spec, in the lines of a picture and in answers: the one that the clues fill. In the
-- picture it stands behind rulers of three lines and three columns.
structure Described (q : Puzzle) (s : Spec) (lines : List (List Char)) (answers : Both (List String)) :
    Prop where
  side : q.side = some q.dimensions.side ∧ s.side = q.dimensions.side
  grid : Square q.dimensions.side s.grid
  filled_iff : ∀ c, c.Within q.dimensions.side →
    (entryAt s.grid c = some 'X' ↔ ∃ e ∈ q.entries, e.Covers c)
  picture : Square (q.dimensions.side + 3) lines
  letter : ∀ c, c.Within q.dimensions.side → ∀ e ∈ q.entries, ∀ l, e.Puts c l →
    entryAt lines ⟨c.x + 3, c.y + 3⟩ = some l
  blank : ∀ c, c.Within q.dimensions.side → (¬ ∃ e ∈ q.entries, e.Covers c) →
    entryAt lines ⟨c.x + 3, c.y + 3⟩ = some '.'
  gridnums : Square q.dimensions.side s.gridnums
  number_iff : ∀ c, c.Within q.dimensions.side → ∀ k, 0 < k →
    (entryAt s.gridnums c = some k ↔ ∃ e ∈ q.entries, e.id = k ∧ e.position = c)
  filled_of_number : ∀ c, c.Within q.dimensions.side → ∀ k, 0 < k → entryAt s.gridnums c = some k →
    entryAt s.grid c = some 'X'
  numbers : s.gridnums.flatten.filter (· ≠ 0) = List.range' 1 q.maxId
  lengths : ∀ d, (answers.get d).map String.length = (s.clues.get d).map (·.wordLengths.sum)
  -- the letters of an entry are those that were found when its clue was checked
  letters : ∀ e ∈ q.entries, e.clue.letters = some (String.ofList e.letters)

namespace Outcome

variable {p q : Puzzle} {grid : List Char} {c : Coord}

theorem entryAt_grid_iff (hq : p.Outcome q) (hvisible : ∀ e ∈ p.entries, e.Visible)
    (hc : c.Within p.dimensions.side) :
    entryAt (Spec.ofPuzzle q).grid c = some 'X' ↔ ∃ e ∈ p.entries, e.Covers c := by
  obtain ⟨grid, hgrid, hshows⟩ := hq.grid
  rw [hq.grid_ofPuzzle hgrid, entryAt_map, entryAt_rowsOf hshows.length hc]
  by_cases hcovered : ∃ e ∈ p.entries, e.Covers c
  · refine iff_of_true ?_ hcovered
    obtain ⟨e, he, l, hl⟩ := hcovered
    have hne : l ≠ blankCell := hvisible e he l hl.mem_letters
    rw [hshows.letter e he c l hl, Option.map_some, Spec.mark, if_neg hne]
  · refine iff_of_false ?_ hcovered
    rw [hshows.blank c hc fun e he l hl => hcovered ⟨e, he, l, hl⟩]
    decide

theorem lines_picture (hq : p.Outcome q) (hplain : ∀ e ∈ p.entries, Plain e.letters)
    (hgrid : q.grid = some grid) (hshows : Shows p.dimensions.side p.entries grid) :
    Text.lines q.picture.toList = Picture.lines p.dimensions.side grid := by
  have hcells : ∀ l ∈ grid, isLineEnd l = false := by
    intro l hl
    rcases hshows.letter_or_blank hl with rfl | ⟨e, he, hletter⟩
    · rfl
    · exact isLineEnd_of_plain (hplain e he) hletter
  have hpicture : q.picture =
      String.ofList (['\n'].intercalate (Picture.lines p.dimensions.side grid)) := by
    rw [picture, hgrid, hq.side]
  rw [hpicture, String.toList_ofList, lines_intercalate _ (Picture.noLineEnd_lines hcells)]
  exact List.cons_ne_nil _ _

theorem entryAt_gridnums (hq : p.Outcome q) (hc : c.Within p.dimensions.side) :
    entryAt (Spec.ofPuzzle q).gridnums c = some (Spec.numberAt q.starts c) := by
  rw [hq.gridnums_ofPuzzle, Spec.entryAt_numberRows _ hc]

theorem entryAt_gridnums_iff (hq : p.Outcome q) (hl : p.Lawful) (hc : c.Within p.dimensions.side)
    {k : Nat} (hk : 0 < k) :
    entryAt (Spec.ofPuzzle q).gridnums c = some k ↔ ∃ e ∈ p.entries, e.id = k ∧ e.position = c := by
  rw [hq.entryAt_gridnums hc, Option.some.injEq, hq.numberAt_eq_iff hl hk]

theorem flatten_gridnums (hq : p.Outcome q) (hl : p.Lawful) :
    (Spec.ofPuzzle q).gridnums.flatten.filter (· ≠ 0) = List.range' 1 p.maxId := by
  rw [hq.gridnums_ofPuzzle, Spec.flatten_numberRows, hq.filter_numberAt hl]

theorem sum_wordLengths (hl : p.Lawful) {d : Direction} {c : Clue} (hc : c ∈ p.clues.get d) :
    c.settled.wordLengths.sum = (lettersOf c.answer.toList).length := by
  have hsound := hl.sound ⟨d, c⟩ (mem_entries.mpr hc)
  rw [Clue.wordLengths_settled (hsound.length_lt (side_lt_longestWord p.dimensions)), lettersOf,
    List.length_flatten]

-- A puzzle that was checked describes itself.
theorem described (hq : q.Outcome q) (hl : q.Lawful) (hplain : ∀ e ∈ q.entries, Plain e.letters) :
    ∃ answers, q.answers = some answers ∧
      q.Described (Spec.ofPuzzle q) (Text.lines q.picture.toList) answers := by
  have hvisible : ∀ e ∈ q.entries, e.Visible := fun e he => Entry.visible_of_plain (hplain e he)
  obtain ⟨grid, hgrid, hshows⟩ := hq.grid
  rw [hq.lines_picture hplain hgrid hshows]
  refine ⟨_, hq.answers, ?_⟩
  constructor
  case side => exact ⟨hq.side, hq.side_ofPuzzle⟩
  case grid =>
    rw [hq.grid_ofPuzzle hgrid]
    exact (square_rowsOf hshows.length).map _
  case filled_iff => exact fun c hc => hq.entryAt_grid_iff hvisible hc
  case picture => exact Picture.square_lines hshows.length
  case letter =>
    intro c hc e he l hput
    have hne : l ≠ blankCell := hvisible e he l hput.mem_letters
    rw [Picture.entryAt_lines hshows.length hc, hshows.letter e he c l hput, Option.map_some,
      Picture.cellChar, if_neg hne]
  case blank =>
    intro c hc hnone
    rw [Picture.entryAt_lines hshows.length hc,
      hshows.blank c hc fun e he l hput => hnone ⟨e, he, l, hput⟩]
    rfl
  case gridnums =>
    rw [hq.gridnums_ofPuzzle]
    exact Spec.square_numberRows _ _
  case number_iff => exact fun c hc k hk => hq.entryAt_gridnums_iff hl hc hk
  case filled_of_number =>
    intro c hc k hk hnumber
    obtain ⟨e, he, -, rfl⟩ := (hq.entryAt_gridnums_iff hl hc hk).mp hnumber
    exact (hq.entryAt_grid_iff hvisible hc).mpr ⟨e, he, (hl.sound e he).covers_position⟩
  case numbers => exact hq.flatten_gridnums hl
  case lengths =>
    intro d
    rw [hq.get_clues_ofPuzzle, Both.get_map, List.map_map, List.map_map]
    apply List.map_congr_left
    intro c hc
    rw [Function.comp_apply, Function.comp_apply, String.length_ofList]
    exact (sum_wordLengths hl hc).symm
  case letters =>
    rintro ⟨d, c⟩ he
    have hletters : (unpack c.answer.toList).letters = lettersOf c.answer.toList :=
      (hl.sound _ he).unpack_letters (side_lt_longestWord q.dimensions)
    calc c.letters
        = c.settled.letters := by rw [hq.settled_eq hl (mem_entries.mp he)]
      _ = some (String.ofList (lettersOf c.answer.toList)) := by rw [Clue.settled, hletters]

end Outcome

end Puzzle

-- The grid is the same one wherever a valid puzzle shows it.
theorem compile_described {settings : Settings} {text : String} {c : Compilation}
    (h : compile settings text = .ok c) (hv : c.Valid) :
    ∃ s answers, c.spec? = some s ∧ c.puzzle.answers = some answers ∧
      c.puzzle.Described s (Text.lines c.picture.toList) answers := by
  obtain ⟨p, hlegible, -, hl, hq⟩ := Compilation.exists_outcome h hv
  have hretells := hq.retells_settled
  have hplain : ∀ e ∈ c.puzzle.entries, Plain e.letters := by
    intro e' he'
    obtain ⟨e, he, rfl⟩ := hretells.mem_entries_iff.mp he'
    rw [(hretells.entry he).entry_letters, List.map_id]
    exact hlegible.plain (Puzzle.mem_entries.mp he)
  have hself := hq.self hl hlegible.visible_entries
  obtain ⟨answers, hanswers, hdescribed⟩ := hself.described (hretells.lawful hl) hplain
  rw [← (hv.projects h).picture] at hdescribed
  exact ⟨_, answers, (hv.projects h).spec, hanswers, hdescribed⟩

-- Ids in both directions, a crossing, and cells in a word that nothing is known about.
def crossingText : String :=
  "size: 15x15\nacross\n- (2,1) 1. A (C*T-DOG)\n- (1,3) 3. B (2)\ndown\n- (4,1) 2. C (T***)"

theorem compile_described_crossingText :
    ∃ c s answers, compile { pubdate := "2017/01/01" } crossingText = .ok c ∧ c.Valid ∧
      c.puzzle.maxId = 3 ∧ c.spec? = some s ∧ c.puzzle.answers = some answers ∧
      c.puzzle.Described s (Text.lines c.picture.toList) answers := by
  have hchecked : (Puzzle.read crossingText).errors = [] ∧
      (Puzzle.read crossingText).validate.Valid ∧
      (Puzzle.read crossingText).validate.maxId = 3 := by
    decide
  obtain ⟨hread, hvalid, hmax⟩ := hchecked
  have hc := Compilation.compile_of_read hread { pubdate := "2017/01/01" }
  have hv := (Compilation.valid_ofPuzzle_iff .document none).mpr hvalid
  obtain ⟨s, answers, hs, hanswers, hdescribed⟩ := compile_described hc hv
  exact ⟨_, s, answers, hc, hv, hmax, hs, hanswers, hdescribed⟩

end Cruciverb
