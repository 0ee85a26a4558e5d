import Cruciverb.Proofs.Puzzle.Validity

namespace Cruciverb

open Cruciverb.Answer

namespace Clue

@[simp] theorem settled_id (c : Clue) : c.settled.id = c.id := rfl

@[simp] theorem settled_position (c : Clue) : c.settled.position = c.position := rfl

@[simp] theorem settled_body (c : Clue) : c.settled.body = c.body := rfl

theorem settled_numeric (c : Clue) :
    c.settled.numericOrAnswer = String.ofList (lengthsOnly c.answer.toList) := rfl

theorem wordLengths_settled {c : Clue} (h : (lettersOf c.answer.toList).length < longestWord) :
    c.settled.wordLengths = (wordsOf c.answer.toList).map List.length :=
  congrArg (List.map List.length) (unpack_words_eq (.inr h))

end Clue

namespace Puzzle

variable {p q : Puzzle}

structure Outcome (p q : Puzzle) : Prop where
  field : ∀ f, q.field? f = p.field? f
  dimensions : q.dimensions = p.dimensions
  clues : q.clues = p.clues.map (·.map Clue.settled)
  errors : q.errors = []
  side : q.side = some p.dimensions.side
  grid : ∃ grid, q.grid = some grid ∧ Shows p.dimensions.side p.entries grid
  starts : ∀ k pos, (q.starts.get? k).map (·.position) = some pos ↔
    ∃ e ∈ p.entries, e.id = k ∧ e.position = pos
  answers : q.answers =
    some (p.clues.map (·.map fun c => String.ofList (lettersOf c.answer.toList)))

theorem filter_entries (p : Puzzle) (d : Direction) :
    p.entries.filter (·.direction = d) = (p.clues.get d).map (Entry.mk d) := by
  rw [entries_eq, List.filter_append, List.filter_map, List.filter_map]
  cases d with
  | across => simp [Function.comp_def, Both.get]
  | down => simp [Function.comp_def, Both.get]

theorem outcome (hvisible : ∀ e ∈ p.entries, e.Visible) (hp : p.errors = []) (hl : p.Lawful) :
    p.Outcome p.validate := by
  have hadm := hl.admitted
  obtain ⟨hacross, hdown, hr⟩ := (walked_spec hvisible).2 hadm
  have hvalid : p.validate.errors = [] := (validate_valid_iff hvisible hp).mpr hl
  have hanswers : p.walked.2.2.1.answers =
      p.clues.map (·.map fun c => String.ofList (lettersOf c.answer.toList)) := by
    apply Both.ext_get
    intro d
    rw [hr.answers, filter_entries, List.map_map, Both.get_map]
    rfl
  refine ⟨?_, ?_, ?_, hvalid, ?_, ?_, ?_, ?_⟩
  all_goals rw [validate_eq hp]
  · exact fun f => by cases f <;> rfl
  · show Both.mk _ _ = _
    rw [hacross, hdown]
    rfl
  · exact ⟨_, rfl, hr.shows⟩
  · exact hr.starts
  · exact congrArg some hanswers

theorem Legible.outcome (h : p.Legible) (hp : p.errors = []) (hl : p.Lawful) : p.Outcome p.validate :=
  Puzzle.outcome h.visible_entries hp hl

end Puzzle

end Cruciverb
