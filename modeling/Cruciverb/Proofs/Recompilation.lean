import Cruciverb.Proofs.Compilation
import Cruciverb.Proofs.Derived
import Cruciverb.Proofs.Document.Regeneration

namespace Cruciverb

open Cruciverb.Answer

namespace Puzzle

-- What a puzzle and the one read from its regenerated document have in common once both are
-- checked: everything but the lines that they were read from.
structure Regenerates (q q' : Puzzle) : Prop where
  field : ∀ f, q'.field? f = q.field? f
  dimensions : q'.dimensions = q.dimensions
  side : q'.side = q.side
  grid : q'.grid = q.grid
  starts : q'.starts.map (·.position) = q.starts.map (·.position)
  clues : q'.clues = q.clues.map (·.map fun c => { c with source := c.text })
  answers : q'.answers = q.answers

theorem Outcome.regenerates {p q q' : Puzzle} (hq : p.Outcome q) (h : p.Legible) (hl : p.Lawful)
    (hq' : (read (q.regenerated true)).Outcome q') : q.Regenerates q' := by
  have hretells := hq.retells_regenerated h hl
  refine ⟨?_, ?_, ?_, ?_, hretells.starts_eq hq hq', ?_, ?_⟩
  · intro f
    rw [hq'.field, hq.field_regenerated h hl, hq.field]
  · rw [hq'.dimensions, hretells.dimensions, hq.dimensions]
  · rw [hq'.side, hretells.dimensions, hq.side]
  · rw [hretells.grid_eq h.visible_entries hq hq', funext Retells.renameCell_id]
    cases q.grid with
    | none => rfl
    | some grid => simp
  · rw [hq'.clues, hretells.clues, hq.clues, Both.map_map_lists, Both.map_map_lists]
    apply Both.map_lists_congr
    intro d c hc
    exact Clue.settled_rewritten (hl.sound ⟨d, c⟩ (mem_entries.mpr hc)).words
  · rw [hretells.answers_eq hq', hq.answers]
    simp

namespace Regenerates

variable {q q' : Puzzle}

theorem spec (h : q.Regenerates q') : Spec.ofPuzzle q' = Spec.ofPuzzle q := by
  refine Spec.ofPuzzle_congr (fun f _ => h.field f) h.dimensions h.side ?_ h.starts ?_ ?_
  · rw [h.grid]
  · rw [h.clues]
    exact Both.map_map_lists _ _ _
  · rw [h.answers]

theorem regenerated (h : q.Regenerates q') (withAnswers : Bool) :
    q'.regenerated withAnswers = q.regenerated withAnswers :=
  regenerated_congr h.field h.dimensions h.clues (fun _ => ⟨rfl, rfl⟩) withAnswers

theorem picture (h : q.Regenerates q') : q'.picture = q.picture := by
  rw [Puzzle.picture, Puzzle.picture, h.grid, h.side]

end Regenerates

end Puzzle

-- A regenerated document compiles to the puzzle it was regenerated from.
theorem compile_regenerated {settings : Settings} {text : String} {c : Compilation}
    (h : compile settings text = .ok c) (hv : c.Valid) :
    ∃ d, c.regenerated? true = some d ∧
      ∀ settings', ∃ c', compile settings' d = .ok c' ∧
        c'.format = .document ∧ c'.Valid ∧ c'.errors = [] ∧
        c'.spec? = c.spec? ∧ c'.specText = c.specText ∧
        c'.specTextWithoutAnswers = c.specTextWithoutAnswers ∧
        c'.picture = c.picture ∧
        c'.puzzle.starts.map (·.position) = c.puzzle.starts.map (·.position) ∧
        c'.regenerated? true = some d ∧ c'.regenerated? false = c.regenerated? false := by
  obtain ⟨p, hlegible, hp, hl, hpuzzle⟩ := Compilation.valid_puzzle h hv
  have hq := hlegible.outcome hp hl
  rw [← hpuzzle] at hq
  have hc := hv.projects h
  refine ⟨c.puzzle.regenerated true, hc.regenerated true, fun settings' => ?_⟩
  set d := c.puzzle.regenerated true with hd
  have hread := hq.errors_regenerated hlegible hl
  have hlaw := (hq.retells_regenerated hlegible hl).lawful hl
  have hq' := (Puzzle.legible_read d).outcome hread hlaw
  have hregen := hq.regenerates hlegible hl hq'
  set c' := Compilation.ofPuzzle .document none (Puzzle.read d).validate
  have hv' : c'.Valid := (Compilation.valid_ofPuzzle_iff _ _).mpr hq'.errors
  have hc' := Compilation.projects_ofPuzzle hv'
  have hspec : Spec.ofPuzzle c'.puzzle = Spec.ofPuzzle c.puzzle := hregen.spec
  have hregenerated (b : Bool) : c'.regenerated? b = some (c.puzzle.regenerated b) := by
    rw [hc'.regenerated b]
    exact congrArg some (hregen.regenerated b)
  refine ⟨c', Compilation.compile_of_convert (hq.ofText_regenerated hlegible hl) rfl hread, rfl, hv',
    hv', ?_, ?_, ?_, ?_, hregen.starts, hregenerated true, ?_⟩
  · rw [hc'.spec, hc.spec, hspec]
  · rw [hc'.specText, hc.specText, hspec]
  · rw [hc'.specTextWithoutAnswers, hc.specTextWithoutAnswers, hspec]
  · rw [hc'.picture, hc.picture]
    exact hregen.picture
  · rw [hregenerated false, hc.regenerated false]

-- A body of blanks alone, a value that begins with a colon and an answer of placeholders.
theorem compile_regenerated_odd_texts :
    ∃ c, compile { pubdate := "2017/01/01" }
        "name:  : odd\nacross\n- (1,1) 1.    (***)\ndown\n- (1,1) 1. Fish (*OD)" = .ok c ∧ c.Valid ∧
      ∃ d c', c.regenerated? true = some d ∧ compile { pubdate := "today" } d = .ok c' ∧ c'.Valid ∧
        c'.spec? = c.spec? ∧ c'.regenerated? true = some d := by
  have hvalid : (Puzzle.read
      "name:  : odd\nacross\n- (1,1) 1.    (***)\ndown\n- (1,1) 1. Fish (*OD)").validate.Valid := by
    decide
  have hc := @Compilation.compile_of_convert { pubdate := "2017/01/01" }
    "name:  : odd\nacross\n- (1,1) 1.    (***)\ndown\n- (1,1) 1. Fish (*OD)" _ .document
    (by decide) rfl (by decide)
  have hv := (Compilation.valid_ofPuzzle_iff .document none).mpr hvalid
  obtain ⟨d, hd, hcompiles⟩ := compile_regenerated hc hv
  obtain ⟨c', hc', -, hv', -, hspec, -, -, -, -, hregen, -⟩ := hcompiles { pubdate := "today" }
  exact ⟨_, hc, hv, d, c', hd, hc', hv', hspec, hregen⟩

end Cruciverb
