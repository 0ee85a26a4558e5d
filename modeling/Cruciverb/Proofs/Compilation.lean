import Cruciverb.Compilation
import Cruciverb.Proofs.Puzzle.Outcome
import Cruciverb.Proofs.SourceFormat

namespace Cruciverb

open Cruciverb.Answer

namespace Import

theorem exists_of_map_ok {ε α β : Type} {f : α → β} {x : Except ε α} {b : β} (h : x.map f = .ok b) :
    ∃ a, x = .ok a ∧ f a = b := by
  cases x with
  | error e => cases h
  | ok a => exact ⟨a, rfl, Except.ok.inj h⟩

theorem exists_of_convert_quickSlow {settings : Settings} {text document : String}
    (h : convert settings .quickSlow text = .ok document) :
    ∃ doc, fromQuickSlow settings text = .ok doc ∧ doc.text = document :=
  exists_of_map_ok h

theorem exists_of_convert_compilerExport {settings : Settings} {text document : String}
    (h : convert settings .compilerExport text = .ok document) :
    ∃ doc, fromCompilerExport settings text = .ok doc ∧ doc.text = document :=
  exists_of_map_ok h

end Import

namespace Compilation

section Parts

variable {format : SourceFormat} {refusal : Option Import.Error} {p : Puzzle} {c : Compilation}

theorem valid_ofPuzzle_iff (format : SourceFormat) (refusal : Option Import.Error) :
    (ofPuzzle format refusal p).Valid ↔ p.Valid :=
  List.map_eq_nil_iff

-- What a valid puzzle comes to.
structure Projects (c : Compilation) : Prop where
  errors : c.errors = []
  puzzle : c.puzzle.Valid
  spec : c.spec? = some (Spec.ofPuzzle c.puzzle)
  specText : c.specText = (Spec.ofPuzzle c.puzzle).text
  specTextWithoutAnswers : c.specTextWithoutAnswers = (Spec.ofPuzzle c.puzzle).withoutAnswers.text
  picture : c.picture = c.puzzle.picture
  regenerated : ∀ b, c.regenerated? b = some (c.puzzle.regenerated b)

theorem projects_ofPuzzle (hv : (ofPuzzle format refusal p).Valid) :
    (ofPuzzle format refusal p).Projects := by
  have hp : p.Valid := (valid_ofPuzzle_iff _ _).mp hv
  refine ⟨hv, hp, if_pos hp, ?_, ?_, rfl, fun b => ?_⟩
  · rw [ofPuzzle, if_pos hp]
    rfl
  · rw [ofPuzzle, if_pos hp]
  · cases b <;> exact if_pos hp

-- Neither a spec nor documents are made of any other one, and the errors stand in for them.
structure Fails (c : Compilation) : Prop where
  errors : c.errors ≠ []
  spec : c.spec? = none
  specText : c.specText = ""
  specTextWithoutAnswers : c.specTextWithoutAnswers = "\n".intercalate c.errors
  regenerated : ∀ b, c.regenerated? b = none

theorem fails_ofPuzzle (hv : ¬ (ofPuzzle format refusal p).Valid) :
    (ofPuzzle format refusal p).Fails := by
  have hp : ¬ p.Valid := fun hp => hv ((valid_ofPuzzle_iff _ _).mpr hp)
  refine ⟨hv, if_neg hp, ?_, ?_, fun b => ?_⟩
  · rw [ofPuzzle, if_neg hp]
    rfl
  · rw [ofPuzzle, if_neg hp]
  · cases b <;> exact if_neg hp

end Parts

variable {settings : Settings} {text : String} {c : Compilation}

-- Each compilation is made of a puzzle in one and the same way.
theorem exists_puzzle (h : compile settings text = .ok c) :
    ∃ refusal p, c = ofPuzzle (SourceFormat.ofText text) refusal p := by
  rw [compile] at h
  split at h
  · exact ⟨_, _, (Except.ok.inj h).symm⟩
  · exact ⟨_, _, (Except.ok.inj h).symm⟩
  · cases h

theorem Valid.projects (hv : c.Valid) (h : compile settings text = .ok c) : c.Projects := by
  obtain ⟨refusal, p, rfl⟩ := exists_puzzle h
  exact projects_ofPuzzle hv

theorem fails (h : compile settings text = .ok c) (hv : ¬ c.Valid) : c.Fails := by
  obtain ⟨refusal, p, rfl⟩ := exists_puzzle h
  exact fails_ofPuzzle hv

theorem spec?_eq_some_iff (h : compile settings text = .ok c) {s : Spec} :
    c.spec? = some s ↔ c.Valid ∧ Spec.ofPuzzle c.puzzle = s := by
  by_cases hv : c.Valid
  · simp [(hv.projects h).spec, hv]
  · simp [(fails h hv).spec, hv]

-- A compilation without errors has read a document without errors and checked it.
theorem exists_document (h : compile settings text = .ok c) (hv : c.Valid) :
    ∃ document, convert settings (SourceFormat.ofText text) text = .ok document ∧
      (Puzzle.read document).errors = [] ∧ c.puzzle = (Puzzle.read document).validate := by
  rw [compile] at h
  split at h
  · next document hdoc =>
    cases h
    refine ⟨document, hdoc, ?_⟩
    by_cases hp : (Puzzle.read document).errors = []
    · exact ⟨hp, if_pos (by simpa using hp)⟩
    · have hchecked : checked (Puzzle.read document) = Puzzle.read document :=
        if_neg (by simpa using hp)
      exact absurd (hchecked ▸ (valid_ofPuzzle_iff _ _).mp hv : (Puzzle.read document).Valid) hp
  · cases h
    exact absurd ((valid_ofPuzzle_iff _ _).mp hv) (by simp [Puzzle.ofErrors, Puzzle.Valid])
  · cases h

theorem valid_puzzle (h : compile settings text = .ok c) (hv : c.Valid) :
    ∃ p : Puzzle, p.Legible ∧ p.errors = [] ∧ p.Lawful ∧ c.puzzle = p.validate := by
  obtain ⟨document, -, hp, hpuzzle⟩ := exists_document h hv
  have hlegible := Puzzle.legible_read document
  have hvalid : (Puzzle.read document).validate.Valid := hpuzzle ▸ (hv.projects h).puzzle
  exact ⟨_, hlegible, hp, (hlegible.validate_valid_iff hp).mp hvalid, hpuzzle⟩

theorem exists_outcome (h : compile settings text = .ok c) (hv : c.Valid) :
    ∃ p : Puzzle, p.Legible ∧ p.errors = [] ∧ p.Lawful ∧ p.Outcome c.puzzle := by
  obtain ⟨p, hlegible, hp, hl, hpuzzle⟩ := valid_puzzle h hv
  rw [hpuzzle]
  exact ⟨p, hlegible, hp, hl, hlegible.outcome hp hl⟩

theorem compile_of_convert {document : String} {format : SourceFormat}
    (hformat : SourceFormat.ofText text = format) (hconvert : convert settings format text = .ok document)
    (herrors : (Puzzle.read document).errors = []) :
    compile settings text = .ok (ofPuzzle format none (Puzzle.read document).validate) := by
  have hchecked : checked (Puzzle.read document) = (Puzzle.read document).validate := by
    rw [checked, herrors]
    rfl
  rw [compile, hformat, hconvert, ← hchecked]
  rfl

-- What is read without an error needs no conversion.
theorem compile_of_read (h : (Puzzle.read text).errors = []) (settings : Settings) :
    compile settings text = .ok (ofPuzzle .document none (Puzzle.read text).validate) :=
  compile_of_convert (SourceFormat.ofText_of_read h) rfl h

end Compilation

-- A document may mention what other formats begin with, in its comments and its values.
def markedText : String :=
  "# quick slow\nname: \x7b quick slow \x7d\nacross\n- (1,1) 1. Quick <?xml (CAT) # <?xml"

end Cruciverb
