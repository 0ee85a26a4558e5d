import Cruciverb.Compilation
import Cruciverb.Proofs.Puzzle.Retelling
import Mathlib.Data.List.Basic

namespace Cruciverb

open Cruciverb.Answer

theorem rowsOf_map {α β : Type} (f : α → β) (n : Nat) (cells : List α) :
    rowsOf n (cells.map f) = (rowsOf n cells).map (·.map f) := by
  rw [rowsOf, rowsOf]
  split
  · rfl
  · rw [List.map_map, List.length_map]
    apply List.map_congr_left
    intro y _
    rw [Function.comp_apply, List.map_take, List.map_drop]

namespace Spec

theorem numberAt_eq (starts : Table Clue) (c : Coord) :
    numberAt starts c = (((starts.map (·.position)).entries.reverse.find? (·.2 == c)).map
      (·.1)).getD 0 := by
  rw [numberAt, Table.map, ← List.map_reverse, List.find?_map, Option.map_map]
  rfl

theorem numberRows_congr {side : Nat} {starts starts' : Table Clue}
    (h : starts'.map (·.position) = starts.map (·.position)) :
    numberRows side starts' = numberRows side starts := by
  have hnumber (c : Coord) : numberAt starts' c = numberAt starts c := by
    rw [numberAt_eq, h, ← numberAt_eq]
  simp only [numberRows, hnumber]

theorem ofPuzzle_congr {p q : Puzzle} (hfield : ∀ f, f ≠ .version → q.field? f = p.field? f)
    (hdimensions : q.dimensions = p.dimensions) (hside : q.side = p.side)
    (hgrid : q.grid.map (·.map mark) = p.grid.map (·.map mark))
    (hstarts : q.starts.map (·.position) = p.starts.map (·.position))
    (hclues : q.clues.map (·.map clue) = p.clues.map (·.map clue))
    (hanswers : q.answers.filter (!isSilent ·) = p.answers.filter (!isSilent ·)) :
    ofPuzzle q = ofPuzzle p := by
  have hname : q.name = p.name := hfield .name (by decide)
  have hauthor : q.author = p.author := Option.some.inj (hfield .author (by decide))
  have heditor : q.editor = p.editor := Option.some.inj (hfield .editor (by decide))
  have hcopyright : q.copyright = p.copyright := Option.some.inj (hfield .copyright (by decide))
  have hpublisher : q.publisher = p.publisher := Option.some.inj (hfield .publisher (by decide))
  have hpubdate : q.pubdate = p.pubdate := Option.some.inj (hfield .pubdate (by decide))
  have hmarks (side : Nat) (blank : List Char) :
      (rowsOf side (q.grid.getD blank)).map (·.map mark) =
        (rowsOf side (p.grid.getD blank)).map (·.map mark) := by
    have hget (g : Option (List Char)) : (g.getD blank).map mark =
        (g.map (·.map mark)).getD (blank.map mark) := by cases g <;> rfl
    rw [← rowsOf_map, ← rowsOf_map, hget, hgrid, ← hget]
  simp only [ofPuzzle, hname, hauthor, heditor, hcopyright, hpublisher, hpubdate, hside, hdimensions,
    hmarks, numberRows_congr hstarts, hclues, hanswers]

-- Two specs that differ in their answers at most.
theorem eq_of_withoutAnswers {s t : Spec} (h : s.withoutAnswers = t.withoutAnswers)
    (hanswers : s.answers = t.answers) : s = t := by
  cases s
  cases t
  simp_all [withoutAnswers]

end Spec

namespace Puzzle.Outcome

variable {p q : Puzzle}

theorem side_ofPuzzle (hq : p.Outcome q) : (Spec.ofPuzzle q).side = p.dimensions.side := by
  rw [Spec.ofPuzzle, hq.side]
  rfl

theorem gridnums_ofPuzzle (hq : p.Outcome q) :
    (Spec.ofPuzzle q).gridnums = Spec.numberRows p.dimensions.side q.starts := by
  rw [Spec.ofPuzzle, hq.side]
  rfl

theorem grid_ofPuzzle (hq : p.Outcome q) {grid : List Char} (h : q.grid = some grid) :
    (Spec.ofPuzzle q).grid = (rowsOf p.dimensions.side grid).map (·.map Spec.mark) := by
  rw [Spec.ofPuzzle, hq.side, h]
  rfl

theorem get_clues_ofPuzzle (hq : p.Outcome q) (d : Direction) :
    (Spec.ofPuzzle q).clues.get d = (p.clues.get d).map fun c => Spec.clue c.settled := by
  rw [Spec.ofPuzzle, hq.clues, Both.get_map, Both.get_map, List.map_map]
  rfl

end Puzzle.Outcome

namespace Puzzle

theorem regenerated_eq {p q : Puzzle} (hfield : ∀ f, q.field? f = p.field? f)
    (hdimensions : q.dimensions = p.dimensions) {withAnswers withAnswers' : Bool}
    (hclues : (q.document withAnswers').clues = (p.document withAnswers).clues) :
    q.regenerated withAnswers' = p.regenerated withAnswers := by
  have hfields : (q.document withAnswers').fields = (p.document withAnswers).fields := by
    rw [document, document, hdimensions]
    refine congrArg (· ++ _) (List.filterMap_congr fun f _ => ?_)
    rw [hfield]
  have hdocument : q.document withAnswers' = p.document withAnswers := by
    rw [Document.mk.injEq]
    exact ⟨hfields, hclues⟩
  rw [regenerated, regenerated, hdocument]

theorem regenerated_congr {p q : Puzzle} (hfield : ∀ f, q.field? f = p.field? f)
    (hdimensions : q.dimensions = p.dimensions) {retold : Clue → Clue}
    (hclues : q.clues = p.clues.map (·.map retold))
    (hretold : ∀ c : Clue, (retold c).toClueLine = c.toClueLine ∧ (retold c).numeric = c.numeric)
    (withAnswers : Bool) : q.regenerated withAnswers = p.regenerated withAnswers := by
  refine regenerated_eq hfield hdimensions ?_
  rw [document, document, hclues]
  simp [Both.map, Function.comp_def, Clue.numericOrAnswer, hretold]

theorem allLetters_map (clues : Both (List Clue)) (letters : Clue → List Char) :
    allLetters (clues.map (·.map fun c => String.ofList (letters c))) =
      (clues.across ++ clues.down).flatMap letters := by
  simp only [allLetters, Both.map, ← List.map_append, List.flatMap_map, String.toList_ofList]

-- One sign in place of every letter says nothing, if it is an X or a placeholder.
theorem isSilent_const {sign : Char} (hsign : sign = 'X' ∨ sign = star) {clues : Both (List Clue)}
    {letters : Clue → List Char} (hne : (clues.across ++ clues.down).flatMap letters ≠ []) :
    Spec.isSilent (clues.map (·.map fun c => String.ofList ((letters c).map fun _ => sign))) =
      true := by
  rw [Spec.isSilent, allLetters_map, ← List.map_flatMap]
  generalize (clues.across ++ clues.down).flatMap letters = all at hne
  rcases hsign with rfl | rfl
  · simp [hne]
  · simp [hne]

end Puzzle

-- The lengths of the words tell nothing of the letters.
theorem Clue.Retells.specClue_eq {rename : Char → Char} {c c' : Clue} (h : c.Retells rename c')
    (hbody : c'.body = c.body)
    (hnumeric : lengthsOnly c'.answer.toList = lengthsOnly c.answer.toList)
    (hshort : (lettersOf c.answer.toList).length < longestWord) :
    Spec.clue c'.settled = Spec.clue c.settled := by
  have hlengths : c'.settled.wordLengths = c.settled.wordLengths := by
    rw [wordLengths_settled hshort, wordLengths_settled, h.words, List.map_map]
    · exact List.map_congr_left fun w _ => List.length_map _
    · rw [h.letters, List.length_map]
      exact hshort
  rw [Spec.clue, Spec.clue, hlengths, settled_numeric, settled_numeric, hnumeric, settled_id, settled_id,
    settled_body, settled_body, h.id, hbody]

namespace Puzzle

-- A letter that is replaced leaves its cell filled.
theorem mark_renameCell {rename : Char → Char} (hrename : ∀ l, l ≠ blankCell → rename l ≠ blankCell)
    (l : Char) : Spec.mark (Retells.renameCell rename l) = Spec.mark l := by
  rw [Retells.renameCell]
  split
  · next hblank => rw [hblank]
  · next hfilled => rw [Spec.mark, Spec.mark, if_neg (hrename l hfilled), if_neg hfilled]

-- Whoever tells the same puzzle with other letters makes the same spec, but for its answers.
theorem Retells.withoutAnswers_eq {rename : Char → Char} {retold : Clue → Clue} {p p' q q' : Puzzle}
    (h : p.Retells rename retold p') (hvisible : ∀ e ∈ p.entries, e.Visible)
    (hrename : ∀ l, l ≠ blankCell → rename l ≠ blankCell) (hq : p.Outcome q) (hq' : p'.Outcome q')
    (hfield : ∀ f, f ≠ .version → p'.field? f = p.field? f)
    (hclues : ∀ d, ∀ c ∈ p.clues.get d, Spec.clue (retold c).settled = Spec.clue c.settled) :
    (Spec.ofPuzzle q').withoutAnswers = (Spec.ofPuzzle q).withoutAnswers := by
  have hclues' : q'.clues.map (·.map Spec.clue) = q.clues.map (·.map Spec.clue) := by
    rw [hq'.clues, h.clues, hq.clues, Both.map_map_lists, Both.map_map_lists, Both.map_map_lists]
    exact Both.map_lists_congr hclues
  have hmarks : q'.grid.map (·.map Spec.mark) = q.grid.map (·.map Spec.mark) := by
    rw [h.grid_eq hvisible hq hq', Option.map_map]
    refine congrArg (Option.map · q.grid) (funext fun grid => ?_)
    rw [Function.comp_apply, List.map_map]
    exact List.map_congr_left fun l _ => mark_renameCell hrename l
  have hstarts := h.starts_eq hq hq'
  -- a spec without answers is the spec of a puzzle that has none
  show Spec.ofPuzzle { q' with answers := none } = Spec.ofPuzzle { q with answers := none }
  refine Spec.ofPuzzle_congr ?_ ?_ ?_ hmarks hstarts hclues' rfl
  · intro f hf
    have heq : q'.field? f = q.field? f := by rw [hq'.field, hfield f hf, hq.field]
    cases f <;> exact heq
  · exact (hq'.dimensions.trans h.dimensions).trans hq.dimensions.symm
  · exact hq'.side.trans ((congrArg (some ∘ Dimensions.side) h.dimensions).trans hq.side.symm)

end Puzzle

end Cruciverb
