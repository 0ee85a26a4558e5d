import Cruciverb.Proofs.Document.Reading

namespace Cruciverb

open Cruciverb.Text

-- Nothing has been found out about the clue yet.
structure Clue.Fresh (c : Clue) : Prop where
  numeric : c.numeric = none
  letters : c.letters = none
  wordLengths : c.wordLengths = []

namespace Puzzle

structure Legible (p : Puzzle) : Prop where
  field : ∀ f v, p.field? f = some v → f.Takes v ∨ ({} : Puzzle).field? f = some v
  name : ∀ f, p.field? f = none → ({} : Puzzle).field? f = none
  writable : ∀ d, ∀ c ∈ p.clues.get d, c.toClueLine.Writable
  fresh : ∀ d, ∀ c ∈ p.clues.get d, c.Fresh

theorem legible_default (source : String) : Legible { source } where
  field _ _ h := .inr h
  name _ h := h
  writable d c h := by cases d <;> cases h
  fresh d c h := by cases d <;> cases h

variable {p : Puzzle}

-- Of the values that stand where nothing was read, only these two make no line.
theorem takes_of_default {f : Field} {value : String} (h : ({} : Puzzle).field? f = some value)
    (hauthor : f ≠ .author) (hpubdate : f ≠ .pubdate) : f.Takes value := by
  have hclean : Clean value.toList ∧ value.toList ≠ [] := by
    cases f <;> cases h
    all_goals first
      | exact absurd rfl hauthor
      | exact absurd rfl hpubdate
      | decide
  exact ⟨{ hclean.1 with ne_nil := hclean.2 }, fun hf => absurd hf hpubdate⟩

-- So does every value that is neither of the two.
theorem Legible.takes (h : p.Legible) {f : Field} {value : String} (hfield : p.field? f = some value)
    (hdefault : ({} : Puzzle).field? f = some value → f ≠ .author ∧ f ≠ .pubdate) : f.Takes value := by
  rcases h.field f value hfield with htakes | hvalue
  · exact htakes
  · exact takes_of_default hvalue (hdefault hvalue).1 (hdefault hvalue).2

-- If all values that make a line are kept, the other fields have their default value.
theorem Legible.filter_or_default (h : p.Legible) {f : Field} {keep : String → Bool}
    (hkeep : ∀ value, f.Takes value → keep value = true) (source : String) :
    ((p.field? f).filter keep).or (({ source } : Puzzle).field? f) = p.field? f := by
  have hdefault : ({ source } : Puzzle).field? f = ({} : Puzzle).field? f := by cases f <;> rfl
  rw [hdefault]
  cases hf : p.field? f with
  | none => rw [Option.filter_none, Option.none_or, h.name f hf]
  | some value =>
    rw [Option.filter_some]
    split
    · rfl
    · next hdropped =>
      rcases h.field f value hf with htakes | hdef
      · exact absurd (hkeep value htakes) hdropped
      · rw [Option.none_or, hdef]

theorem Legible.setField (h : p.Legible) {f : Field} {v : String} (hv : f.Takes v) :
    (p.setField f v).Legible := by
  have hclues : (p.setField f v).clues = p.clues := clues_set (.field f v) p
  refine ⟨?_, ?_, hclues ▸ h.writable, hclues ▸ h.fresh⟩
  · intro g w hw
    by_cases hgf : g = f
    · subst hgf
      rw [field?_setField] at hw
      cases hw
      exact .inl hv
    · rw [field?_setField_of_ne v p hgf] at hw
      exact h.field g w hw
  · intro g hg
    by_cases hgf : g = f
    · subst hgf
      simp at hg
    · rw [field?_setField_of_ne v p hgf] at hg
      exact h.name g hg

theorem Legible.addClue (h : p.Legible) {d : Direction} {line : ClueLine} (source : String)
    (hw : line.Writable) : (p.addClue d (.ofLine line source)).Legible := by
  have hmem : ∀ e c, c ∈ (p.addClue d (.ofLine line source)).clues.get e →
      c ∈ p.clues.get e ∨ c = .ofLine line source := by
    intro e c hc
    rw [Puzzle.addClue, Both.get_modify] at hc
    split at hc
    · simpa using hc
    · exact .inl hc
  refine ⟨h.field, h.name, ?_, ?_⟩
  · intro e c hc
    rcases hmem e c hc with hc | rfl
    · exact h.writable e c hc
    · exact hw
  · intro e c hc
    rcases hmem e c hc with hc | rfl
    · exact h.fresh e c hc
    · exact ⟨rfl, rfl, rfl⟩

-- Each line keeps what has been read so far legible.
theorem legible_readLines {ls : List (List Char)} (hls : ∀ l ∈ ls, Clean l)
    (grouping : Option Direction) (h : p.Legible) : (readLines grouping ls p).Legible := by
  refine readLines_keeps ?_ grouping h
  intro l hl q q' hstep hq
  cases hstep with
  | heading heading hline =>
    cases heading with
    | field f value => exact hq.setField (Field.takes_of_read (hls l hl) hline)
    | size d => exact ⟨hq.field, hq.name, hq.writable, hq.fresh⟩
  | clue d line hline => exact hq.addClue _ (ClueLine.writable_of_read (hls l hl) hline)
  | error e _ => exact ⟨hq.field, hq.name, hq.writable, hq.fresh⟩

theorem legible_read (text : String) : (read text).Legible :=
  legible_readLines (fun _ => clean_of_mem_cleanLines) none (legible_default text)

end Puzzle

end Cruciverb
