import Cruciverb.Proofs.Answer.Lengths
import Cruciverb.Proofs.Recompilation

namespace Cruciverb

open Cruciverb.Answer

namespace Clue

-- The clue with the lengths of its words for an answer.
def unsolved (c : Clue) : Clue := { c with answer := String.ofList (lengthsOnly c.answer.toList) }

variable {c : Clue}

theorem answer_unsolved (c : Clue) : c.unsolved.answer.toList = lengthsOnly c.answer.toList :=
  String.toList_ofList

theorem retells_unsolved (h : Line.isAnswer c.answer.toList = true) :
    c.Retells (fun _ => star) c.unsolved := by
  refine ⟨rfl, rfl, ?_⟩
  rw [answer_unsolved, wordsOf_lengthsOnly h]

theorem writable_unsolved (h : c.toClueLine.Writable) (hwords : ∀ w ∈ wordsOf c.answer.toList, w ≠ []) :
    c.unsolved.toClueLine.Writable where
  x_lt := h.x_lt
  y_lt := h.y_lt
  id_lt := h.id_lt
  body := h.body
  answer := by
    rw [answer_unsolved]
    exact isAnswer_lengthsOnly h.answer hwords

-- There is nothing more to be taken away by checking.
theorem settled_unsolved (hwords : ∀ w ∈ wordsOf c.answer.toList, w ≠ []) :
    c.unsolved.settled.answer = c.settled.numericOrAnswer ∧
      c.unsolved.settled.numericOrAnswer = c.settled.numericOrAnswer := by
  obtain ⟨hanswer, hnumeric⟩ := unpack_lengthsOnly hwords
  constructor
  · rw [settled, settled_numeric, answer_unsolved]
    exact congrArg String.ofList hanswer
  · rw [settled_numeric, settled_numeric, answer_unsolved]
    exact congrArg String.ofList hnumeric

theorem specClue_unsolved (h : Line.isAnswer c.answer.toList = true)
    (hwords : ∀ w ∈ wordsOf c.answer.toList, w ≠ [])
    (hshort : (lettersOf c.answer.toList).length < longestWord) :
    Spec.clue c.unsolved.settled = Spec.clue c.settled := by
  refine (retells_unsolved h).specClue_eq rfl ?_ hshort
  rw [answer_unsolved]
  exact lengthsOnly_lengthsOnly hwords

end Clue

namespace Puzzle

def unsolved (p : Puzzle) : Puzzle := { p with clues := p.clues.map (·.map Clue.unsolved) }

variable {p q q' : Puzzle}

theorem field?_unsolved (p : Puzzle) (f : Field) : p.unsolved.field? f = p.field? f := by
  cases f <;> rfl

theorem Legible.retells_unsolved (h : p.Legible) :
    p.Retells (fun _ => star) Clue.unsolved p.unsolved where
  dimensions := rfl
  clues := rfl
  retells d c hc := Clue.retells_unsolved (h.writable d c hc).answer

theorem Legible.unsolved (h : p.Legible) (hl : p.Lawful) : p.unsolved.Legible := by
  have hmem : ∀ d, ∀ c ∈ p.unsolved.clues.get d, ∃ c₀ ∈ p.clues.get d, c₀.unsolved = c := by
    intro d c hc
    rw [Puzzle.unsolved, Both.get_map] at hc
    exact List.mem_map.mp hc
  refine ⟨?_, ?_, ?_, ?_⟩
  · intro f v hv
    rw [field?_unsolved] at hv
    exact h.field f v hv
  · intro f hf
    rw [field?_unsolved] at hf
    exact h.name f hf
  · intro d c' hc'
    obtain ⟨c, hc, rfl⟩ := hmem d c' hc'
    exact Clue.writable_unsolved (h.writable d c hc) (hl.sound ⟨d, c⟩ (mem_entries.mpr hc)).words
  · intro d c' hc'
    obtain ⟨c, hc, rfl⟩ := hmem d c' hc'
    obtain ⟨hnumeric, hletters, hlengths⟩ := h.fresh d c hc
    exact ⟨hnumeric, hletters, hlengths⟩

namespace Outcome

-- Once it is checked, the puzzle without answers writes what the other one writes without them.
theorem regenerated_unsolved (hq : p.Outcome q) (hq' : p.unsolved.Outcome q') (hl : p.Lawful)
    (withAnswers : Bool) : q'.regenerated withAnswers = q.regenerated false := by
  refine regenerated_eq ?_ ?_ ?_
  · intro f
    rw [hq'.field, field?_unsolved, hq.field]
  · exact hq'.dimensions.trans hq.dimensions.symm
  · rw [document, document, hq'.clues, hq.clues]
    apply Both.ext_get
    intro d
    simp only [unsolved, Both.get_map, List.map_map]
    apply List.map_congr_left
    intro c hc
    obtain ⟨hanswer, hnumeric⟩ := Clue.settled_unsolved (hl.sound ⟨d, c⟩ (mem_entries.mpr hc)).words
    simp only [Function.comp_apply, hanswer, hnumeric, ite_self, Bool.false_eq_true, if_false,
      Clue.settled_position, Clue.settled_id, Clue.settled_body]
    rfl

-- All of its letters are placeholders, which the spec keeps silent about.
theorem ofPuzzle_unsolved (hq : p.Outcome q) (hq' : p.unsolved.Outcome q') (h : p.Legible)
    (hl : p.Lawful) : Spec.ofPuzzle q' = (Spec.ofPuzzle q).withoutAnswers := by
  have hretells := h.retells_unsolved
  have hstar : star ≠ blankCell := by decide
  have hsame : (Spec.ofPuzzle q').withoutAnswers = (Spec.ofPuzzle q).withoutAnswers := by
    refine hretells.withoutAnswers_eq h.visible_entries (fun _ _ => hstar) hq hq'
      (fun f _ => field?_unsolved p f) fun d c hc => ?_
    have hsound := hl.sound ⟨d, c⟩ (mem_entries.mpr hc)
    exact Clue.specClue_unsolved (h.writable d c hc).answer hsound.words
      (hsound.length_lt (side_lt_longestWord p.dimensions))
  have hletters : (p.clues.across ++ p.clues.down).flatMap (fun c => lettersOf c.answer.toList) ≠ [] := by
    obtain ⟨⟨d, c⟩, he⟩ := List.exists_mem_of_ne_nil _ hl.clued
    have hc : c ∈ p.clues.across ++ p.clues.down := by
      have hmem := mem_entries.mp he
      cases d with
      | across => exact List.mem_append_left _ hmem
      | down => exact List.mem_append_right _ hmem
    intro hnil
    exact lettersOf_ne_nil (hl.sound _ he).words (List.flatMap_eq_nil_iff.mp hnil c hc)
  have hsilent : (Spec.ofPuzzle q').answers = none := by
    show q'.answers.filter (!Spec.isSilent ·) = none
    rw [hretells.answers_eq hq', Option.filter_some, isSilent_const (.inr rfl) hletters]
    rfl
  exact Spec.eq_of_withoutAnswers hsame hsilent

end Outcome

-- What a puzzle and the one read from its document without answers have in common once both are
-- checked.
structure Unsolves (q q' : Puzzle) : Prop where
  valid : q'.Valid
  spec : Spec.ofPuzzle q' = (Spec.ofPuzzle q).withoutAnswers
  regenerated : ∀ withAnswers, q'.regenerated withAnswers = q.regenerated false

theorem Outcome.unsolves (hq : p.Outcome q) (h : p.Legible) (hp : p.errors = []) (hl : p.Lawful) :
    (read (q.regenerated false)).errors = [] ∧
      q.Unsolves (read (q.regenerated false)).validate := by
  have hlegible := h.unsolved hl
  have hlawful := h.retells_unsolved.lawful hl
  have hunsolved := hlegible.outcome hp hlawful
  -- the document without answers is the one that the puzzle without answers makes of itself
  have hdocument := hq.regenerated_unsolved hunsolved hl
  rw [← hdocument true]
  have hread := hunsolved.errors_regenerated hlegible hlawful
  have hlaw := (hunsolved.retells_regenerated hlegible hlawful).lawful hlawful
  have hq' := (legible_read _).outcome hread hlaw
  have hregen := hunsolved.regenerates hlegible hlawful hq'
  refine ⟨hread, hq'.errors, ?_, fun withAnswers => ?_⟩
  · rw [hregen.spec, hq.ofPuzzle_unsolved hunsolved h hl]
  · rw [hregen.regenerated, hdocument]

end Puzzle

-- The document without answers compiles to the puzzle without answers.
theorem compile_unsolved {settings : Settings} {text : String} {c : Compilation}
    (h : compile settings text = .ok c) (hv : c.Valid) :
    ∃ d, c.regenerated? false = some d ∧
      ∀ settings', ∃ c', compile settings' d = .ok c' ∧ c'.format = .document ∧ c'.Valid ∧
        c'.errors = [] ∧ c'.spec? = c.spec?.map Spec.withoutAnswers ∧
        c'.specText = c.specTextWithoutAnswers ∧
        c'.specTextWithoutAnswers = c.specTextWithoutAnswers ∧
        ∀ withAnswers, c'.regenerated? withAnswers = some d := by
  obtain ⟨p, hlegible, hp, hl, hq⟩ := Compilation.exists_outcome h hv
  obtain ⟨hread, hunsolves⟩ := hq.unsolves hlegible hp hl
  set d := c.puzzle.regenerated false with hd
  have hc := hv.projects h
  refine ⟨d, hc.regenerated false, fun settings' => ?_⟩
  set c' := Compilation.ofPuzzle .document none (Puzzle.read d).validate
  have hv' : c'.Valid := (Compilation.valid_ofPuzzle_iff _ _).mpr hunsolves.valid
  have hc' := Compilation.projects_ofPuzzle hv'
  have hspec : Spec.ofPuzzle c'.puzzle = (Spec.ofPuzzle c.puzzle).withoutAnswers := hunsolves.spec
  refine ⟨c', Compilation.compile_of_read hread settings', rfl, hv', hv', ?_, ?_, ?_,
    fun withAnswers => ?_⟩
  · rw [hc'.spec, hc.spec, hspec, Option.map_some]
  · rw [hc'.specText, hc.specTextWithoutAnswers, hspec]
  · rw [hc'.specTextWithoutAnswers, hc.specTextWithoutAnswers, hspec]
    rfl
  · rw [hc'.regenerated withAnswers]
    exact congrArg some (hunsolves.regenerated withAnswers)

-- Letters with a hyphen, a length with a zero in front, and placeholders where the length is crossed.
def crossedText : String :=
  "across\n- (1,1) 1. A (C*T-DOG)\n- (1,3) 2. B (1,02)\ndown\n- (1,1) 1. C (C**)"

theorem compile_unsolved_crossedText :
    ∃ c, compile { pubdate := "2017/01/01" } crossedText = .ok c ∧ c.Valid ∧
      ∃ d c', c.regenerated? false = some d ∧ compile { pubdate := "today" } d = .ok c' ∧ c'.Valid ∧
        c'.specText = c.specTextWithoutAnswers ∧ c'.regenerated? true = some d := by
  have hchecked : (Puzzle.read crossedText).errors = [] ∧ (Puzzle.read crossedText).validate.Valid := by
    decide +kernel
  obtain ⟨hread, hvalid⟩ := hchecked
  have hc := Compilation.compile_of_read hread { pubdate := "2017/01/01" }
  have hv := (Compilation.valid_ofPuzzle_iff .document none).mpr hvalid
  obtain ⟨d, hd, hcompiles⟩ := compile_unsolved hc hv
  obtain ⟨c', hc', -, hv', -, -, htext, -, hregen⟩ := hcompiles { pubdate := "today" }
  exact ⟨_, hc, hv, d, c', hd, hc', hv', htext, hregen true⟩

-- What there is to a clue beside its letters.
def Clue.outline (c : Clue) : Coord × Nat × String × Option String :=
  (c.position, c.id, c.body, c.numeric)

namespace Puzzle

-- Puzzles that differ in the letters of their answers at most.
structure Alike (q₁ q₂ : Puzzle) : Prop where
  field : ∀ f, q₁.field? f = q₂.field? f
  dimensions : q₁.dimensions = q₂.dimensions
  clues : ∀ d, (q₁.clues.get d).map Clue.outline = (q₂.clues.get d).map Clue.outline

-- The line of a clue with these lengths.
def outlineLine : Coord × Nat × String × Option String → ClueLine
  | (position, id, body, numeric) => ⟨position, id, body, numeric.getD ""⟩

theorem Outcome.get_clues_document {p q : Puzzle} (hq : p.Outcome q) (d : Direction) :
    (q.document false).clues.get d = ((q.clues.get d).map Clue.outline).map outlineLine := by
  rw [document, hq.clues, Both.get_map, Both.get_map, List.map_map, List.map_map, List.map_map]
  apply List.map_congr_left
  intro c _
  rfl

theorem Alike.regenerated {p₁ p₂ q₁ q₂ : Puzzle} (h : q₁.Alike q₂) (hq₁ : p₁.Outcome q₁)
    (hq₂ : p₂.Outcome q₂) : q₁.regenerated false = q₂.regenerated false := by
  refine regenerated_eq h.field h.dimensions (Both.ext_get fun d => ?_)
  rw [hq₁.get_clues_document, hq₂.get_clues_document, h.clues]

end Puzzle

-- What is meant for solvers depends on nothing but what the puzzles have in common: it can be made
-- from their document without answers.
theorem compile_alike {settings₁ settings₂ : Settings} {text₁ text₂ : String} {c₁ c₂ : Compilation}
    (h₁ : compile settings₁ text₁ = .ok c₁) (hv₁ : c₁.Valid)
    (h₂ : compile settings₂ text₂ = .ok c₂) (hv₂ : c₂.Valid) (halike : c₁.puzzle.Alike c₂.puzzle) :
    c₁.specTextWithoutAnswers = c₂.specTextWithoutAnswers ∧
      ∃ d, c₁.regenerated? false = some d ∧ c₂.regenerated? false = some d := by
  obtain ⟨p₁, hlegible₁, hp₁, hl₁, hq₁⟩ := Compilation.exists_outcome h₁ hv₁
  obtain ⟨p₂, hlegible₂, hp₂, hl₂, hq₂⟩ := Compilation.exists_outcome h₂ hv₂
  have hdocument := halike.regenerated hq₁ hq₂
  have hspec : (Spec.ofPuzzle c₁.puzzle).withoutAnswers = (Spec.ofPuzzle c₂.puzzle).withoutAnswers := by
    rw [← (hq₁.unsolves hlegible₁ hp₁ hl₁).2.spec, ← (hq₂.unsolves hlegible₂ hp₂ hl₂).2.spec,
      hdocument]
  have hc₁ := hv₁.projects h₁
  have hc₂ := hv₂.projects h₂
  refine ⟨?_, c₁.puzzle.regenerated false, hc₁.regenerated false, ?_⟩
  · rw [hc₁.specTextWithoutAnswers, hc₂.specTextWithoutAnswers, hspec]
  · rw [hdocument]
    exact hc₂.regenerated false

-- The same puzzle without a letter.
def lengthsText : String :=
  "across\n- (1,1) 1. A (3-3)\n- (1,3) 2. B (1,02)\ndown\n- (1,1) 1. C (***)"

theorem compile_alike_crossedText :
    ∃ c₁ c₂, compile { pubdate := "2017/01/01" } crossedText = .ok c₁ ∧ c₁.Valid ∧
      compile { pubdate := "today" } lengthsText = .ok c₂ ∧ c₂.Valid ∧
      c₁.puzzle.answers ≠ c₂.puzzle.answers ∧ c₁.puzzle.Alike c₂.puzzle ∧
      c₁.specTextWithoutAnswers = c₂.specTextWithoutAnswers ∧
      c₁.regenerated? false = c₂.regenerated? false := by
  have hchecked : (Puzzle.read crossedText).errors = [] ∧ (Puzzle.read lengthsText).errors = [] ∧
      (Puzzle.read crossedText).validate.Valid ∧ (Puzzle.read lengthsText).validate.Valid ∧
      (Puzzle.read crossedText).validate.answers ≠ (Puzzle.read lengthsText).validate.answers ∧
      (∀ f ∈ Puzzle.fieldOrder, (Puzzle.read crossedText).validate.field? f =
        (Puzzle.read lengthsText).validate.field? f) ∧
      (Puzzle.read crossedText).validate.dimensions = (Puzzle.read lengthsText).validate.dimensions ∧
      ∀ d, ((Puzzle.read crossedText).validate.clues.get d).map Clue.outline =
        ((Puzzle.read lengthsText).validate.clues.get d).map Clue.outline := by
    decide +kernel
  obtain ⟨hread₁, hread₂, hvalid₁, hvalid₂, hanswers, hfield, hdimensions, hclues⟩ := hchecked
  have hc₁ := Compilation.compile_of_read hread₁ { pubdate := "2017/01/01" }
  have hc₂ := Compilation.compile_of_read hread₂ { pubdate := "today" }
  have hv₁ := (Compilation.valid_ofPuzzle_iff .document none).mpr hvalid₁
  have hv₂ := (Compilation.valid_ofPuzzle_iff .document none).mpr hvalid₂
  have halike : (Puzzle.read crossedText).validate.Alike (Puzzle.read lengthsText).validate :=
    ⟨fun f => hfield f (by cases f <;> decide), hdimensions, hclues⟩
  obtain ⟨htext, d, hd₁, hd₂⟩ := compile_alike hc₁ hv₁ hc₂ hv₂ halike
  exact ⟨_, _, hc₁, hv₁, hc₂, hv₂, hanswers, halike, htext, hd₁.trans hd₂.symm⟩

end Cruciverb
