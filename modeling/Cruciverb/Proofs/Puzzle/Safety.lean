import Cruciverb.Grid.Access
import Cruciverb.Proofs.Puzzle.Check
import Cruciverb.Proofs.Puzzle.Validity
import Cruciverb.Puzzle.Access

namespace Cruciverb

open Cruciverb.Answer

namespace Machine

section Cells

variable {side : Nat} {c : Coord}

-- Grids are so small that all that is computed from a cell of theirs fits a word.
theorem area_lt (hside : side < longestWord) : side + side * side < Text.wordLimit := by
  have hsquare : side * side ≤ longestWord * longestWord := Nat.mul_le_mul hside.le hside.le
  have hlimit : longestWord + longestWord * longestWord < Text.wordLimit := by decide
  omega

theorem flatIndex_of_within (hside : side < longestWord) (h : c.Within side) :
    flatIndex side c = some (c.flatIndex side) := by
  have harea := area_lt hside
  have hlt := Coord.flatIndex_lt h
  exact flatIndex_eq h (by omega)

-- Beyond the grid it is another matter.
example : flatIndex 15 ⟨0, 1⟩ = none := rfl

theorem ordinal_eq (hside : side < longestWord) (h : c.Within side) :
    ordinal side c = some (c.ordinal side) := by
  have harea := area_lt hside
  obtain ⟨-, hx, -, hy⟩ := h
  have hrows : c.y * side ≤ side * side := Nat.mul_le_mul_right side hy
  rw [ordinal, mul_eq (by omega), Option.bind_eq_bind, Option.bind_some, add_eq (by omega)]
  rfl

end Cells

-- The strokes lead from one grid to the other, and each of them is drawn into a cell that is blank.
inductive Draws : List Char → List Stroke → List Char → Prop
  | nil (grid : List Char) : Draws grid [] grid
  | cons {grid grid' : List Char} {s : Stroke} {strokes : List Stroke}
      (hblank : grid[s.cell]? = some blankCell)
      (hrest : Draws (grid.set s.cell s.letter) strokes grid') : Draws grid (s :: strokes) grid'

-- What fills a cell: the first letter that is drawn there and does not leave it blank.
def fill (strokes : List Stroke) (i : Nat) : Char :=
  ((strokes.find? fun s => s.cell = i ∧ s.letter ≠ blankCell).map (·.letter)).getD blankCell

namespace Draws

variable {grid grid' grid'' : List Char} {strokes more : List Stroke} {i : Nat}

theorem append (h : Draws grid strokes grid') (h' : Draws grid' more grid'') :
    Draws grid (strokes ++ more) grid'' := by
  induction h with
  | nil => exact h'
  | cons hblank _ ih => exact .cons hblank (ih h')

theorem length_eq (h : Draws grid strokes grid') : grid'.length = grid.length := by
  induction h with
  | nil => rfl
  | cons _ _ ih => rw [ih, List.length_set]

-- A cell that has a letter keeps it, and no stroke goes there.
theorem keeps (h : Draws grid strokes grid') {l : Char} (hl : grid[i]? = some l) (hne : l ≠ blankCell) :
    grid'[i]? = some l ∧ ∀ s ∈ strokes, s.cell ≠ i := by
  induction h with
  | nil => exact ⟨hl, by simp⟩
  | @cons grid _ s _ hblank _ ih =>
    have hcell : s.cell ≠ i := by
      rintro rfl
      rw [hl, Option.some.injEq] at hblank
      exact hne hblank
    obtain ⟨hend, hrest⟩ := ih (by rwa [List.getElem?_set_ne hcell])
    exact ⟨hend, List.forall_mem_cons.mpr ⟨hcell, hrest⟩⟩

theorem getElem?_blank (h : Draws grid strokes grid') (hi : grid[i]? = some blankCell) :
    grid'[i]? = some (fill strokes i) := by
  induction h with
  | nil => exact hi
  | @cons grid grid' s strokes hblank hrest ih =>
    by_cases hcell : s.cell = i
    · subst hcell
      have hset : (grid.set s.cell s.letter)[s.cell]? = some s.letter :=
        List.getElem?_set_self (List.getElem?_eq_some_iff.mp hblank).1
      by_cases hletter : s.letter = blankCell
      · rw [ih (by rw [hset, hletter]), fill, fill, List.find?_cons_of_neg (by simp [hletter])]
      · rw [(hrest.keeps hset hletter).1, fill, List.find?_cons_of_pos (by simp [hletter])]
        rfl
    · rw [ih (by rwa [List.getElem?_set_ne hcell]), fill, fill, List.find?_cons_of_neg (by simp [hcell])]

theorem pairwise (h : Draws grid strokes grid') :
    strokes.Pairwise fun s t => s.letter ≠ blankCell → t.cell ≠ s.cell := by
  induction h with
  | nil => exact .nil
  | @cons grid _ s _ hblank hrest ih =>
    refine List.pairwise_cons.mpr ⟨fun t ht hletter => ?_, ih⟩
    have hset : (grid.set s.cell s.letter)[s.cell]? = some s.letter :=
      List.getElem?_set_self (List.getElem?_eq_some_iff.mp hblank).1
    exact (hrest.keeps hset hletter).2 t ht

end Draws

-- By induction on the letters that are left. The machine reckons the cell of each letter from the first
-- cell, by the number of the letter.
theorem writeLetters_eq {step origin i : Nat} {letters grid : List Char}
    (hin : ∀ j < letters.length, origin + (i + j) * step < grid.length)
    (hgrid : grid.length ≤ Text.wordLimit) (hi : i + letters.length < Text.wordLimit) :
    ∃ strokes, writeLetters step origin letters i grid =
        some (Cruciverb.writeLetters step letters (origin + i * step) (i + 1) grid, strokes) ∧
      Draws grid strokes (Cruciverb.writeLetters step letters (origin + i * step) (i + 1) grid).1 ∧
      strokes.Sublist ((letters.zipIdx i).map fun (letter, n) => ⟨origin + n * step, letter⟩) := by
  induction letters generalizing i grid with
  | nil => exact ⟨[], rfl, .nil grid, List.nil_sublist _⟩
  | cons letter rest ih =>
    have hindex : origin + i * step < grid.length := hin 0 (by simp)
    have hnext : origin + i * step + step = origin + (i + 1) * step := by
      rw [Nat.succ_mul, Nat.add_assoc]
    have hin' : ∀ j < rest.length, origin + (i + 1 + j) * step < grid.length := by
      intro j hj
      rw [Nat.add_assoc, Nat.add_comm 1 j]
      exact hin (j + 1) (by simpa using hj)
    rw [List.length_cons] at hi
    rw [writeLetters, mul_eq (by omega), Option.bind_eq_bind, Option.bind_some, add_eq (by omega),
      Option.bind_eq_bind, Option.bind_some, Cruciverb.writeLetters,
      List.getElem?_eq_getElem hindex, Option.bind_eq_bind, Option.bind_some, hnext]
    dsimp only
    rw [List.zipIdx_cons, List.map_cons]
    split
    · next hblank =>
      obtain ⟨strokes, hrun, hdraws, hsub⟩ :=
        @ih (i + 1) (grid.set (origin + i * step) letter) (by simpa using hin') (by simpa using hgrid)
          (by omega)
      rw [hrun]
      refine ⟨⟨origin + i * step, letter⟩ :: strokes, rfl, .cons ?_ hdraws, hsub.cons_cons _⟩
      rw [List.getElem?_eq_getElem hindex, hblank]
    · next hblank =>
      split
      · next hsame =>
        obtain ⟨strokes, hrun, hdraws, hsub⟩ := @ih (i + 1) grid hin' hgrid (by omega)
        exact ⟨strokes, hrun, hdraws, hsub.cons _⟩
      · next hother =>
        rw [add_eq (by omega)]
        exact ⟨[], rfl, .nil grid, List.nil_sublist _⟩

end Machine

-- The letters of an answer at their cells.
def Entry.strokes (side : Nat) (e : Entry) : List Machine.Stroke :=
  e.letters.zipIdx.map fun (letter, n) => ⟨(e.position.move e.direction n).flatIndex side, letter⟩

-- What holds at any time of a walk, whatever the clues are.
structure Walk.Framed (side : Nat) (w : Walk) : Prop where
  length : w.grid.length = side * side
  starts : ∀ k c, w.starts.get? k = some c → 0 < k ∧ c.id = k ∧ c.position.Within side

theorem Walk.framed_start (side : Nat) : (Walk.start side).Framed side where
  length := List.length_replicate
  starts _ _ h := by cases h

theorem Noted.framed {side : Nat} {clue : Clue} {before starts : Table Clue}
    (h : Noted clue before starts) (hid : 0 < clue.id) (hwithin : clue.position.Within side)
    (hbefore : ∀ k c, before.get? k = some c → 0 < k ∧ c.id = k ∧ c.position.Within side) {k : Nat}
    {c : Clue} (hc : starts.get? k = some c) : 0 < k ∧ c.id = k ∧ c.position.Within side := by
  cases h with
  | first hnone =>
    rw [Table.get?_insert] at hc
    split at hc
    · next hk =>
      cases hc
      exact ⟨hk ▸ hid, hk, hwithin⟩
    · exact hbefore k c hc
  | again hother hposition => exact hbefore k c hc

namespace Machine

variable {side last : Nat} {d : Direction} {w : Walk} {clue : Clue} {clues : List Clue}

-- Both guards on the length have passed once letters are written, so that the last cell is in the grid.
theorem placeAnswer_eq (hside : side < longestWord) (hgrid : w.grid.length = side * side)
    (hwithin : clue.position.Within side) :
    ∃ strokes, placeAnswer side d w last clue =
        some (Cruciverb.placeAnswer side d w last clue, strokes) ∧
      Draws w.grid strokes (Cruciverb.placeAnswer side d w last clue).walk.grid ∧
      strokes.Sublist ((Entry.mk d clue).strokes side) := by
  have hword : longestWord + longestWord < Text.wordLimit := by decide
  have harea := area_lt hside
  have halong := hwithin.along d
  rw [placeAnswer, Cruciverb.placeAnswer]
  dsimp only
  by_cases hlong : side < (unpack clue.answer.toList).letters.length
  · rw [if_pos hlong, if_pos hlong]
    exact ⟨[], rfl, .nil _, List.nil_sublist _⟩
  rw [if_neg hlong, if_neg hlong, add_eq (by omega), Option.bind_eq_bind, Option.bind_some,
    sub_eq (by omega), Option.bind_eq_bind, Option.bind_some]
  by_cases hfits : side < (unpack clue.answer.toList).letters.length + clue.position.along d - 1
  · rw [if_pos hfits, if_pos hfits]
    exact ⟨[], rfl, .nil _, List.nil_sublist _⟩
  have hletters : (unpack clue.answer.toList).letters = (Entry.mk d clue).letters := by
    rw [Unpacked.letters, unpack_words_eq (.inl (by omega))]
    rfl
  rw [hletters] at hlong hfits
  have hin : ∀ j < (Entry.mk d clue).letters.length,
      clue.position.flatIndex side + (0 + j) * d.step side < w.grid.length := by
    intro j hj
    rw [Nat.zero_add, hgrid, ← Coord.flatIndex_move hwithin]
    exact Coord.flatIndex_lt (Coord.within_move hwithin (by omega))
  obtain ⟨strokes, hrun, hdraws, hsub⟩ := writeLetters_eq hin (by omega) (by omega)
  rw [hletters, if_neg hfits, if_neg hfits, flatIndex_of_within hside hwithin, Option.bind_some, hrun]
  rw [Nat.zero_mul] at hdraws ⊢
  refine ⟨strokes, rfl, hdraws, ?_⟩
  have hcells : (Entry.mk d clue).strokes side = (Entry.mk d clue).letters.zipIdx.map
      fun (letter, n) => ⟨clue.position.flatIndex side + n * d.step side, letter⟩ :=
    List.map_congr_left fun _ _ => congrArg (Stroke.mk · _) (Coord.flatIndex_move hwithin d _)
  rw [hcells]
  exact hsub

-- One step: the machine comes to what the check comes to.
theorem checkClue_eq (hside : side < longestWord) (hw : w.Framed side) :
    ∃ strokes, checkClue side d w last clue =
        some (Cruciverb.checkClue side d w last clue, strokes) ∧
      Draws w.grid strokes (Cruciverb.checkClue side d w last clue).walk.grid ∧
      strokes.Sublist ((Entry.mk d clue).strokes side) := by
  rw [checkClue, Cruciverb.checkClue]
  dsimp only
  split
  · exact ⟨[], rfl, .nil _, List.nil_sublist _⟩
  split
  · exact ⟨[], rfl, .nil _, List.nil_sublist _⟩
  cases hposition : positionProblem? side clue.position with
  | some problem => exact ⟨[], rfl, .nil _, List.nil_sublist _⟩
  | none =>
    have hwithin := (positionProblem?_eq_none_iff side clue.position).mp hposition
    cases hget : w.starts.get? clue.id with
    | some other =>
      dsimp only
      split
      · exact @placeAnswer_eq side last d { w with maxId := max w.maxId clue.id } clue hside hw.length
          hwithin
      · exact ⟨[], rfl, .nil _, List.nil_sublist _⟩
    | none => exact placeAnswer_eq hside hw.length hwithin

theorem framed_checkClue (hside : side < longestWord) (hw : w.Framed side) :
    (Cruciverb.checkClue side d w last clue).walk.Framed side := by
  obtain ⟨strokes, -, hdraws, -⟩ := @checkClue_eq side last d w clue hside hw
  refine ⟨hdraws.length_eq.trans hw.length, ?_⟩
  rcases checkClue_cases side d w last clue with
    ⟨maxId, problem, -, heq⟩ | ⟨hid, -, hwithin, starts, hnoted, heq⟩
  · rw [heq]
    exact hw.starts
  · rw [heq, placeAnswer_frame.2.1]
    exact fun k c => hnoted.framed hid hwithin hw.starts

-- The run.
theorem walkClues_eq (hside : side < longestWord) (hw : w.Framed side) :
    ∃ strokes, walkClues side d w last clues =
        some (Cruciverb.walkClues side d w last clues, strokes) ∧
      Draws w.grid strokes.flatten (Cruciverb.walkClues side d w last clues).2.1.grid ∧
      (Cruciverb.walkClues side d w last clues).2.1.Framed side ∧
      (Cruciverb.walkClues side d w last clues).1.map Clue.given = clues.map Clue.given ∧
      List.Forall₂ (fun e drawn => drawn.Sublist (e.strokes side)) (clues.map (Entry.mk d)) strokes := by
  induction clues generalizing w last with
  | nil => exact ⟨[], rfl, .nil _, hw, rfl, .nil⟩
  | cons clue rest ih =>
    obtain ⟨drawn, hcheck, hdrawn, hsub⟩ := @checkClue_eq side last d w clue hside hw
    obtain ⟨strokes, hrun, hdraws, hframed, hgiven, hsubs⟩ :=
      ih (framed_checkClue hside hw)
    rw [walkClues, hcheck, Option.bind_eq_bind, Option.bind_some]
    dsimp only
    rw [hrun]
    refine ⟨drawn :: strokes, rfl, hdrawn.append hdraws, hframed, ?_, .cons hsub hsubs⟩
    show Clue.given _ :: List.map Clue.given _ = _
    rw [given_checkClue, hgiven, List.map_cons]

theorem firstMisplaced_eq (hside : side < longestWord) {pairs : List ((Nat × Clue) × (Nat × Clue))}
    (hwithin : ∀ pair ∈ pairs, pair.1.2.position.Within side ∧ pair.2.2.position.Within side) :
    firstMisplaced side pairs = some (pairs.findSome? (misplaced? side)) := by
  induction pairs with
  | nil => rfl
  | cons pair rest ih =>
    obtain ⟨⟨previous, p⟩, id, c⟩ := pair
    rw [List.forall_mem_cons] at hwithin
    rw [firstMisplaced, ordinal_eq hside hwithin.1.2, ordinal_eq hside hwithin.1.1, ih hwithin.2,
      List.findSome?_cons, misplaced?]
    simp only [Option.bind_eq_bind, Option.bind_some]
    split
    · rfl
    · split
      · rfl
      · split <;> rfl

theorem numberingErrors_eq (hside : side < longestWord) (hw : w.Framed side) :
    numberingErrors side w = some (Cruciverb.numberingErrors side w) := by
  have hentry (e : Nat × Clue) (he : e ∈ w.starts.entries) : e.2.position.Within side :=
    (hw.starts e.1 e.2 (Table.mem_entries_iff.mp he)).2.2
  have hpairs : ∀ pair ∈ w.starts.entries.zip w.starts.entries.tail,
      pair.1.2.position.Within side ∧ pair.2.2.position.Within side := by
    rintro ⟨a, b⟩ hab
    obtain ⟨ha, hb⟩ := List.of_mem_zip hab
    exact ⟨hentry a ha, hentry b (List.mem_of_mem_tail hb)⟩
  rw [numberingErrors, Cruciverb.numberingErrors, firstMisplaced_eq hside hpairs]
  cases missingIds w <;> rfl

end Machine

namespace Puzzle

theorem framed_walked (p : Puzzle) : p.walked.2.2.1.Framed p.dimensions.side := by
  have hside := side_lt_longestWord p.dimensions
  obtain ⟨-, -, -, hframed, -⟩ :=
    @Machine.walkClues_eq _ 0 .across _ p.clues.across hside (Walk.framed_start p.dimensions.side)
  obtain ⟨-, -, -, hframed', -⟩ := @Machine.walkClues_eq _ 0 .down _ p.clues.down hside hframed
  exact hframed'

theorem side_validate (p : Puzzle) :
    p.dimensions = .fifteen ∧ p.validate.side = some 15 ∨
      p.dimensions = .seventeen ∧ p.validate.side = some 17 := by
  rw [validate]
  cases p.dimensions with
  | fifteen => exact .inl ⟨rfl, rfl⟩
  | seventeen => exact .inr ⟨rfl, rfl⟩

-- What has been reported before stays reported.
theorem errors_prefix_validate (p : Puzzle) : p.errors <+: p.validate.errors := by
  rw [validate]
  dsimp only
  generalize (if (p.clues.across.isEmpty && p.clues.down.isEmpty) = true then _ else _) = noClues
  split
  · next hempty =>
    rw [List.isEmpty_iff, List.append_assoc, List.append_assoc, List.append_eq_nil_iff] at hempty
    rw [hempty.1]
    exact List.nil_prefix
  · rw [List.append_assoc, List.append_assoc]
    exact List.prefix_append _ _

-- No assumption is made about the puzzle. `strokes` lists, clue by clue, what is drawn into the grid.
theorem validate_framed (p : Puzzle) :
    ∃ strokes : List (List Machine.Stroke), Machine.validate p = some (p.validate, strokes) ∧
      (p.dimensions = .fifteen ∧ p.validate.side = some 15 ∨
        p.dimensions = .seventeen ∧ p.validate.side = some 17) ∧
      p.errors <+: p.validate.errors ∧
      p.validate.clues.map (·.map Clue.given) = p.clues.map (·.map Clue.given) ∧
      (∀ f, p.validate.field? f = p.field? f) ∧
      p.validate.dimensions = p.dimensions ∧ p.validate.source = p.source ∧
      (∀ k c, p.validate.starts.get? k = some c →
        0 < k ∧ c.id = k ∧ c.position.Within p.dimensions.side) ∧
      List.Forall₂ (fun e drawn => drawn.Sublist (e.strokes p.dimensions.side)) p.entries strokes ∧
      ∃ grid, p.validate.grid = some grid ∧ grid.length = p.dimensions.side * p.dimensions.side ∧
        (∀ i < grid.length, grid[i]? = some (Machine.fill strokes.flatten i)) ∧
        strokes.flatten.Pairwise (fun s t => s.letter ≠ blankCell → t.cell ≠ s.cell) := by
  have hside := side_lt_longestWord p.dimensions
  obtain ⟨across, hrun, hdraws, hframed, hgiven, hsubs⟩ :=
    @Machine.walkClues_eq _ 0 .across _ p.clues.across hside (Walk.framed_start p.dimensions.side)
  obtain ⟨down, hrun', hdraws', hframed', hgiven', hsubs'⟩ :=
    @Machine.walkClues_eq _ 0 .down _ p.clues.down hside hframed
  have hstrokes := hdraws.append hdraws'
  rw [← List.flatten_append] at hstrokes
  refine ⟨across ++ down, ?_, p.side_validate, p.errors_prefix_validate, ?_, ?_, rfl, rfl,
    hframed'.starts, ?_, _, rfl, hframed'.length, ?_, hstrokes.pairwise⟩
  · rw [Machine.validate]
    dsimp only
    rw [hrun, Option.bind_eq_bind, Option.bind_some]
    dsimp only
    rw [hrun', Option.bind_eq_bind, Option.bind_some, Machine.numberingErrors_eq hside hframed', validate]
    dsimp only
    generalize (if (p.clues.across.isEmpty && p.clues.down.isEmpty) = true then _ else _) = noClues
    split <;> rfl
  · exact congrArg₂ Both.mk hgiven hgiven'
  · intro f
    cases f <;> rfl
  · rw [entries_eq]
    exact List.rel_append hsubs hsubs'
  · intro i hi
    rw [hframed'.length] at hi
    refine hstrokes.getElem?_blank ?_
    rw [Walk.start, List.getElem?_replicate, if_pos hi]

end Puzzle

end Cruciverb
