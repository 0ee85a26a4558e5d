import Cruciverb.Document.Line
import Cruciverb.Proofs.Answer.Spelling

namespace Cruciverb.Answer

open Cruciverb.Text

variable {answer : List Char}

theorem isNumeral_writeLength {piece : List Char} (h : piece ≠ []) :
    isNumeral (writeLength piece) = true := by
  rw [writeLength, if_neg (by simpa using h), toList_toString]
  exact isNumeral_toDigits _

theorem ne_nil_of_mem_split (hl : isLettered answer = true) (hwords : ∀ w ∈ wordsOf answer, w ≠ [])
    {piece : List Char} (hpiece : piece ∈ (split answer).parts) : piece ≠ [] :=
  hwords piece (by rwa [wordsOf_of_isLettered hl])

-- Lengths are no letters, so they are not turned into lengths again.
theorem isLettered_lengthsOnly (hl : isLettered answer = true)
    (hwords : ∀ w ∈ wordsOf answer, w ≠ []) : isLettered (lengthsOnly answer) = false := by
  rw [← Bool.not_eq_true]
  intro hnumeric
  obtain ⟨piece, hpiece⟩ := List.exists_mem_of_ne_nil _ (split_parts_ne_nil answer)
  have hmem : writeLength piece ∈ (split (lengthsOnly answer)).parts := by
    rw [split_lengthsOnly hl]
    exact List.mem_map_of_mem hpiece
  have hnot := isNumeral_eq_false_of_mem_split hnumeric hmem
  rw [isNumeral_writeLength (ne_nil_of_mem_split hl hwords hpiece)] at hnot
  cases hnot

theorem lengthsOnly_lengthsOnly (hwords : ∀ w ∈ wordsOf answer, w ≠ []) :
    lengthsOnly (lengthsOnly answer) = lengthsOnly answer := by
  by_cases hl : isLettered answer = true
  · rw [lengthsOnly, isLettered_lengthsOnly hl hwords]
    rfl
  · have hsame : lengthsOnly answer = answer := by rw [lengthsOnly, if_neg hl]
    rw [hsame, hsame]

theorem unpack_unpack (hwords : ∀ w ∈ wordsOf answer, w ≠ []) :
    unpack (unpack answer).answer = unpack answer := by
  by_cases hs : isStarred answer = true
  · have hl := isLettered_of_isStarred hs
    have hanswer : (unpack answer).answer = lengthsOnly answer := by simp [unpack, hs]
    have hplain : isStarred (lengthsOnly answer) = false := by
      rw [← Bool.not_eq_true]
      intro h
      have := isLettered_of_isStarred h
      rw [isLettered_lengthsOnly hl hwords] at this
      cases this
    rw [hanswer]
    simp only [unpack, hplain, hs, lengthsOnly_lengthsOnly hwords, if_true, Bool.false_eq_true,
      if_false]
  · have hanswer : (unpack answer).answer = answer := by simp [unpack, hs]
    rw [hanswer]

-- An answer of lengths is what checking leaves of it.
theorem unpack_lengthsOnly (hwords : ∀ w ∈ wordsOf answer, w ≠ []) :
    (unpack (lengthsOnly answer)).answer = lengthsOnly answer ∧
      (unpack (lengthsOnly answer)).numeric = lengthsOnly answer := by
  have hnumeric := lengthsOnly_lengthsOnly hwords
  refine ⟨?_, hnumeric⟩
  rw [unpack]
  dsimp only
  rw [hnumeric, ite_self]

theorem mem_weave {c : Char} {parts : List (List Char)} {gaps : List Separator}
    (h : c ∈ weave parts gaps) : (∃ part ∈ parts, c ∈ part) ∨ isSeparator c = true := by
  induction parts generalizing gaps with
  | nil => cases h
  | cons part parts ih =>
    cases parts with
    | nil => exact .inl ⟨part, by simp, by simpa [weave] using h⟩
    | cons next parts =>
      cases gaps with
      | nil => exact .inl ⟨part, by simp, by simpa [weave] using h⟩
      | cons gap gaps =>
        rw [weave_cons_cons, List.mem_append, List.mem_cons] at h
        rcases h with h | rfl | h
        · exact .inl ⟨part, by simp, h⟩
        · exact .inr gap.isSeparator_char
        · rcases ih h with ⟨piece, hpiece, hc⟩ | hsep
          · exact .inl ⟨piece, List.mem_cons_of_mem _ hpiece, hc⟩
          · exact .inr hsep

theorem isAnswer_lengthsOnly (h : Line.isAnswer answer = true)
    (hwords : ∀ w ∈ wordsOf answer, w ≠ []) : Line.isAnswer (lengthsOnly answer) = true := by
  by_cases hl : isLettered answer = true
  · have hne : lengthsOnly answer ≠ [] := by
      intro hnil
      have hpieces := congrArg Phrase.parts (split_lengthsOnly hl)
      rw [hnil] at hpieces
      obtain ⟨piece, hpiece⟩ := List.exists_mem_of_ne_nil _ (split_parts_ne_nil answer)
      have hmem : writeLength piece ∈ (split ([] : List Char)).parts := by
        rw [hpieces]
        exact List.mem_map_of_mem hpiece
      have hnum := isNumeral_writeLength (ne_nil_of_mem_split hl hwords hpiece)
      rw [List.mem_singleton.mp hmem] at hnum
      cases hnum
    have hall : (lengthsOnly answer).all (fun c => c.isDigit || isSeparator c) = true := by
      rw [List.all_eq_true]
      intro c hc
      rw [lengthsOnly, if_pos hl] at hc
      rcases mem_weave hc with ⟨part, hpart, hc⟩ | hsep
      · obtain ⟨piece, -, rfl⟩ := List.mem_map.mp hpart
        rw [isDigit_of_mem_writeLength hc, Bool.true_or]
      · rw [hsep, Bool.or_true]
    rw [Line.isAnswer, hall]
    simp [hne]
  · rwa [lengthsOnly, if_neg hl]

theorem isAnswer_unpack (h : Line.isAnswer answer = true) (hwords : ∀ w ∈ wordsOf answer, w ≠ []) :
    Line.isAnswer (unpack answer).answer = true := by
  rw [unpack]
  dsimp only
  split
  · exact isAnswer_lengthsOnly h hwords
  · exact h

end Cruciverb.Answer
