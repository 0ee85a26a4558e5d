import Cruciverb.Proofs.Import.SpecClues
import Cruciverb.Proofs.Import.SpecFields
import Cruciverb.Proofs.Recompilation

namespace Cruciverb

open Cruciverb.Answer Cruciverb.Import Cruciverb.Text

namespace Puzzle

-- Every answer with its letters.
def solution (p : Puzzle) : Both (List String) :=
  p.clues.map (·.map fun c => String.ofList (lettersOf c.answer.toList))

def silent (p : Puzzle) : Bool := Spec.isSilent p.solution

-- What makes a puzzle come back from its spec.
structure Returns (p : Puzzle) : Prop where
  legible : p.Legible
  lawful : p.Lawful
  date : Field.pubdate.Takes p.pubdate
  clue : ∀ d, ∀ c ∈ p.clues.get d, c.Returns

-- The document that is made of the spec.
def recutDocument (p : Puzzle) : Document where
  fields := p.specHeadings.map Heading.entry
  clues := p.clues.map (·.map (Clue.recut p.silent))

variable {p q : Puzzle} {v : Json}

-- An X for each letter says nothing either.
theorem isSilent_shown (h : p.silent = true) :
    Spec.isSilent (p.clues.map (·.map fun c =>
      String.ofList ((lettersOf c.answer.toList).map (shown true)))) = true := by
  rw [silent, Spec.isSilent, solution, allLetters_map, Bool.and_eq_true] at h
  exact isSilent_const (.inl rfl) (by simpa using h.1)

namespace Outcome

theorem answers_ofPuzzle (hq : p.Outcome q) :
    (Spec.ofPuzzle q).answers = if p.silent then none else some p.solution := by
  rw [Spec.ofPuzzle, hq.answers, ← solution, silent]
  dsimp only
  rw [Option.filter_some]
  cases Spec.isSilent p.solution <;> rfl

theorem small_ofPuzzle (hq : p.Outcome q) (h : p.Returns) : (Spec.ofPuzzle q).Small := by
  have hid {c : Clue} {d : Direction} (hc : c ∈ p.clues.get d) : c.id < wordLimit :=
    Nat.lt_trans (h.clue d c hc).writable.id_lt (by decide)
  refine ⟨?_, ?_, ?_⟩
  · rw [hq.side_ofPuzzle]
    cases p.dimensions <;> decide
  · rw [hq.gridnums_ofPuzzle, Spec.numberRows]
    simp only [List.forall_mem_map]
    intro y _ x _
    by_cases hzero : Spec.numberAt q.starts ⟨x, y⟩ = 0
    · rw [hzero]
      decide
    · obtain ⟨e, he, heq, -⟩ := hq.exists_of_numberAt hzero
      rw [← heq]
      exact hid (mem_entries.mp he)
  · intro d
    rw [hq.get_clues_ofPuzzle, List.forall_mem_map]
    intro c hc
    have hidc : c.id < wordLimit := hid hc
    refine ⟨hidc, ?_⟩
    have hlengths : (Spec.clue c.settled).wordLengths = (wordsOf c.answer.toList).map List.length :=
      Clue.wordLengths_settled (h.clue d c hc).short
    rw [hlengths, List.forall_mem_map]
    exact fun w hw => Nat.lt_trans ((h.clue d c hc).length_lt hw) (by decide)

theorem listedClues_eq (hq : p.Outcome q) (hv : (Spec.ofPuzzle q).HeldBy v) (d : Direction) :
    listedClues v d = .ok ((p.clues.get d).map fun c => Spec.clueJson (Spec.clue c.settled)) := by
  unfold listedClues
  rw [hv.clues, hq.get_clues_ofPuzzle, List.map_map]
  rfl

theorem listedAnswers_eq (hq : p.Outcome q) (hv : (Spec.ofPuzzle q).HeldBy v) (d : Direction) :
    listedAnswers v d (p.clues.get d).length =
      .ok ((p.clues.get d).map fun c => given p.silent (lettersOf c.answer.toList)) := by
  unfold listedAnswers
  rw [hv.answers, hq.answers_ofPuzzle]
  cases p.silent with
  | true => exact congrArg Except.ok List.map_const'.symm
  | false =>
    have hsolution : p.solution.get d =
        (p.clues.get d).map fun c => String.ofList (lettersOf c.answer.toList) := by
      rw [solution, Both.get_map]
    simp only [Bool.false_eq_true, if_false, Option.map_some, arrayItems, Json.asArray?, hsolution,
      List.length_map, if_true, List.map_map]
    rfl

end Outcome

end Puzzle

namespace Import

theorem specClueLinesOf_eq {d : Direction} {places : Table Coord} {clues : List Clue}
    {item : Clue → Json} {answer : Clue → Option Json} {line : Clue → ClueLine}
    (h : ∀ c ∈ clues, specClueLine d places (item c) (answer c) = .ok (line c)) :
    specClueLinesOf d places (clues.map fun c => (item c, answer c)) = .ok (clues.map line) := by
  induction clues with
  | nil => rfl
  | cons c clues ih =>
    rw [List.map_cons, specClueLinesOf, h c List.mem_cons_self,
      ih fun c hc => h c (List.mem_cons_of_mem _ hc)]
    rfl

end Import

namespace Puzzle.Outcome

variable {p q : Puzzle} {v : Json}

theorem specClueLines_eq (hq : p.Outcome q) (h : p.Returns) (hv : (Spec.ofPuzzle q).HeldBy v)
    {places : Table Coord} (hplaces : ∀ e ∈ p.entries, places.get? e.id = some e.position)
    (d : Direction) :
    specClueLines v d places = .ok ((p.clues.get d).map (Clue.recut p.silent)) := by
  unfold specClueLines
  rw [hq.listedClues_eq hv]
  dsimp only
  rw [List.length_map, hq.listedAnswers_eq hv]
  dsimp only
  rw [List.zip_map']
  apply specClueLinesOf_eq
  intro c hc
  exact (h.clue d c hc).specClueLine_eq (hplaces ⟨d, c⟩ (mem_entries.mpr hc)) p.silent

theorem specDocument_eq (hq : p.Outcome q) (h : p.Returns) (hv : (Spec.ofPuzzle q).HeldBy v)
    (settings : Settings) : specDocument settings v = .ok p.recutDocument := by
  obtain ⟨places, hhead, hplaces⟩ := hq.specHead_eq h.legible h.lawful h.date hv settings
  unfold specDocument
  rw [hhead]
  dsimp only
  rw [hq.specClueLines_eq h hv hplaces]
  dsimp only
  rw [hq.specClueLines_eq h hv hplaces]
  rfl

theorem fromLegacySpec_eq (hq : p.Outcome q) (h : p.Returns) (settings : Settings) :
    fromLegacySpec settings (Spec.ofPuzzle q).text = .ok p.recutDocument := by
  have hcompact := (hq.small_ofPuzzle h).fits_toJson.fromLegacySpec_compact (by decide) settings
  exact hcompact.trans (hq.specDocument_eq h (Spec.heldBy_arranged _) settings)

end Puzzle.Outcome

namespace Puzzle

variable {p q : Puzzle}

theorem Returns.read_recutDocument (h : p.Returns) :
    read p.recutDocument.text = { setAll p.specHeadings { source := p.recutDocument.text } with
      clues := p.clues.map (·.map fun c => .written (c.recut p.silent)) } := by
  have hw : ∀ d, ∀ line ∈ p.recutDocument.clues.get d, line.Writable := by
    intro d
    rw [recutDocument, Both.get_map, List.forall_mem_map]
    exact fun c hc => (h.clue d c hc).writable_recut p.silent
  have hclues : p.recutDocument.clues.map (·.map Clue.written) =
      p.clues.map (·.map fun c => .written (c.recut p.silent)) := Both.map_map_lists _ _ _
  rw [← hclues]
  exact Document.read_text rfl (readable_specHeadings h.legible h.date) hw

theorem Returns.retells_recutDocument (h : p.Returns) :
    p.Retells (shown p.silent) (fun c => .written (c.recut p.silent)) (read p.recutDocument.text) := by
  rw [h.read_recutDocument]
  exact ⟨dimensions_setAll_specHeadings p _, rfl, fun d c hc => (h.clue d c hc).retells_recut p.silent⟩

theorem Returns.errors_recutDocument (h : p.Returns) : (read p.recutDocument.text).errors = [] := by
  rw [h.read_recutDocument]
  exact errors_setAll _ _

theorem Returns.field_recutDocument (h : p.Returns) {f : Field} (hf : f ≠ .version) :
    (read p.recutDocument.text).field? f = p.field? f := by
  rw [h.read_recutDocument]
  refine Eq.trans ?_ (field?_setAll_specHeadings h.legible p.recutDocument.text hf)
  cases f <;> rfl

-- What is made of a letter is no free cell.
theorem shown_ne_blankCell (silent : Bool) {l : Char} (h : l ≠ blankCell) :
    shown silent l ≠ blankCell := by
  have hunknown : unknownLetter ≠ blankCell := by decide
  cases silent with
  | true => exact hunknown
  | false => exact h

theorem Outcome.ofPuzzle_recut {q' : Puzzle} (hq : p.Outcome q) (h : p.Returns)
    (hq' : (read p.recutDocument.text).Outcome q') : Spec.ofPuzzle q' = Spec.ofPuzzle q := by
  have hretells := h.retells_recutDocument
  have hvisible : ∀ e ∈ p.entries, e.Visible := h.legible.visible_entries
  have hanswers : (Spec.ofPuzzle q').answers = (Spec.ofPuzzle q).answers := by
    show q'.answers.filter (!Spec.isSilent ·) = q.answers.filter (!Spec.isSilent ·)
    rw [hretells.answers_eq hq', hq.answers, Option.filter_some, Option.filter_some, ← solution]
    cases hsilent : p.silent with
    | true =>
      have hsolution : Spec.isSilent p.solution = true := hsilent
      rw [hsolution, isSilent_shown hsilent]
      rfl
    | false =>
      simp only [shown, Bool.false_eq_true, if_false, List.map_id]
      rfl
  refine Spec.eq_of_withoutAnswers ?_ hanswers
  exact hretells.withoutAnswers_eq hvisible (fun _ => shown_ne_blankCell p.silent) hq hq'
    (fun _ hf => h.field_recutDocument hf) fun d c hc => (h.clue d c hc).specClue_recut p.silent

end Puzzle

namespace Compilation

variable {settings : Settings} {text : String} {c : Compilation} {s : Spec}

-- A spec with a date, tidy lengths and bodies that end in no blank is the spec of a puzzle that
-- comes back.
theorem returns_of_spec? (h : compile settings text = .ok c) (hs : c.spec? = some s)
    (hdate : Line.isDateShape s.date.toList = true)
    (hbody : ∀ d, ∀ clue ∈ c.puzzle.clues.get d, trimEnd clue.body.toList = clue.body.toList)
    (htidy : ∀ d, ∀ clue ∈ s.clues.get d, Tidy clue.numeric.toList) :
    ∃ p : Puzzle, p.Returns ∧ p.Outcome c.puzzle := by
  obtain ⟨hv, rfl⟩ := (spec?_eq_some_iff h).mp hs
  obtain ⟨p, hlegible, hp, hl, hpuzzle⟩ := valid_puzzle h hv
  have hq := hlegible.outcome hp hl
  rw [← hpuzzle] at hq
  refine ⟨p, ⟨hlegible, hl, ?_, fun d clue hclue => ?_⟩, hq⟩
  · have hpubdate : (Spec.ofPuzzle c.puzzle).date = p.pubdate :=
      Option.some.inj (hq.field .pubdate)
    rw [hpubdate] at hdate
    rcases hlegible.field .pubdate p.pubdate rfl with htakes | hdefault
    · exact htakes
    · rw [← Option.some.inj hdefault] at hdate
      exact absurd hdate (by decide)
  · have hsound := hl.sound ⟨d, clue⟩ (Puzzle.mem_entries.mpr hclue)
    have hsettled : clue.settled ∈ c.puzzle.clues.get d := by
      rw [hq.clues, Both.get_map]
      exact List.mem_map_of_mem hclue
    have hlisted : Spec.clue clue.settled ∈ (Spec.ofPuzzle c.puzzle).clues.get d := by
      rw [hq.get_clues_ofPuzzle]
      exact List.mem_map_of_mem hclue
    have hbody := hbody d clue.settled hsettled
    have htidy := htidy d (Spec.clue clue.settled) hlisted
    rw [Clue.settled_body] at hbody
    rw [Spec.clue, Clue.settled_numeric, String.toList_ofList] at htidy
    exact ⟨hlegible.writable d clue hclue, hsound.words,
      hsound.length_lt (Puzzle.side_lt_longestWord p.dimensions), hbody, htidy⟩

end Compilation

-- A spec is imported as the puzzle it was made of.
theorem compile_specText {settings : Settings} {text : String} {c : Compilation} {s : Spec}
    (h : compile settings text = .ok c) (hs : c.spec? = some s)
    (hdate : Line.isDateShape s.date.toList = true)
    (hbody : ∀ d, ∀ clue ∈ c.puzzle.clues.get d, trimEnd clue.body.toList = clue.body.toList)
    (htidy : ∀ d, ∀ clue ∈ s.clues.get d, Tidy clue.numeric.toList) (settings' : Settings) :
    ∃ c', compile settings' c.specText = .ok c' ∧ c'.format = .legacySpec ∧ c'.Valid ∧
      c'.errors = [] ∧ c'.spec? = some s ∧ c'.specText = c.specText := by
  obtain ⟨p, hp, hq⟩ := Compilation.returns_of_spec? h hs hdate hbody htidy
  obtain ⟨hv, hspec⟩ := (Compilation.spec?_eq_some_iff h).mp hs
  have htext : c.specText = (Spec.ofPuzzle c.puzzle).text := (hv.projects h).specText
  have hformat : SourceFormat.ofText c.specText = .legacySpec := by
    rw [htext]
    exact (hq.small_ofPuzzle hp).ofText_text
  have hconvert : convert settings' .legacySpec c.specText = .ok p.recutDocument.text := by
    rw [convert, htext, hq.fromLegacySpec_eq hp]
    rfl
  have hread := hp.errors_recutDocument
  have hq' := (Puzzle.legible_read p.recutDocument.text).outcome hread
    (hp.retells_recutDocument.lawful hp.lawful)
  have hv' := (Compilation.valid_ofPuzzle_iff .legacySpec none).mpr hq'.errors
  have hc' := Compilation.projects_ofPuzzle hv'
  have hsame : Spec.ofPuzzle (Puzzle.read p.recutDocument.text).validate = Spec.ofPuzzle c.puzzle :=
    hq.ofPuzzle_recut hp hq'
  refine ⟨_, Compilation.compile_of_convert hformat hconvert hread, rfl, hv', hc'.errors, ?_, ?_⟩
  · exact hc'.spec.trans (congrArg some (hsame.trans hspec))
  · rw [htext, ← hsame]
    exact hc'.specText

-- One answer has letters, and one is given as a number when it is checked.
def mixedText : String :=
  "pubdate: 2017/01/31\nacross\n- (1,1) 1. A (**)\ndown\n- (1,1) 1. B (*OD-E)"

theorem compile_specText_mixed :
    ∃ c s c', compile { pubdate := "2017/01/01" } mixedText = .ok c ∧ c.spec? = some s ∧
      compile { pubdate := "today" } c.specText = .ok c' ∧ c'.format = .legacySpec ∧ c'.Valid ∧
      c'.spec? = some s := by
  have hformat : SourceFormat.ofText mixedText = .document := by decide
  set p := (Puzzle.read mixedText).validate with hp
  have hchecked : (Puzzle.read mixedText).errors = [] ∧ p.Valid ∧
      Line.isDateShape (Spec.ofPuzzle p).date.toList = true ∧
      (∀ d, ∀ clue ∈ p.clues.get d, trimEnd clue.body.toList = clue.body.toList) ∧
      ∀ d, ∀ clue ∈ (Spec.ofPuzzle p).clues.get d, Tidy clue.numeric.toList := by
    rw [hp]
    decide
  obtain ⟨herrors, hread, hdate, hbody, htidy⟩ := hchecked
  have hc := @Compilation.compile_of_convert { pubdate := "2017/01/01" } mixedText _ _ hformat rfl herrors
  have hs := (Compilation.projects_ofPuzzle
    ((Compilation.valid_ofPuzzle_iff .document none).mpr hread)).spec
  obtain ⟨c', hc', hformat', hv', -, hs', -⟩ :=
    compile_specText hc hs hdate hbody htidy { pubdate := "today" }
  exact ⟨_, _, c', hc, hs, hc', hformat', hv', hs'⟩

end Cruciverb
