import Cruciverb.Answer.Words
import Cruciverb.Proofs.Text.Lines
import Cruciverb.Proofs.Text.Numerals

namespace Cruciverb.Answer

open Cruciverb.Text

theorem Separator.isSeparator_char (s : Separator) : isSeparator s.char = true := by
  cases s <;> rfl

theorem eq_of_isSeparator {c : Char} (h : isSeparator c = true) : c = ',' ∨ c = '-' := by
  obtain ⟨s, hs⟩ := Option.isSome_iff_exists.mp h
  rw [← Separator.char_of_ofChar? hs]
  cases s with
  | comma => exact .inl rfl
  | hyphen => exact .inr rfl

theorem weave_cons_cons (part next : List Char) (parts : List (List Char)) (gap : Separator)
    (gaps : List Separator) :
    weave (part :: next :: parts) (gap :: gaps) = part ++ gap.char :: weave (next :: parts) gaps := by
  simp [weave]

-- Weaving loses nothing either, as long as no part holds a separator.
theorem split_text {p : Phrase (List Char)} (hne : p.parts ≠ [])
    (hparts : ∀ part ∈ p.parts, ∀ c ∈ part, isSeparator c = false) : split p.text = p := by
  obtain ⟨parts, gaps, hgaps⟩ := p
  suffices h : (weave parts gaps).splitOnP isSeparator = parts ∧
      (weave parts gaps).filterMap Separator.ofChar? = gaps by
    simp [split, Phrase.text, h]
  dsimp only at hne hparts
  induction parts generalizing gaps with
  | nil => exact absurd rfl hne
  | cons part parts ih =>
    have hpart := hparts part (by simp)
    have hnone : part.filterMap Separator.ofChar? = [] := by
      rw [List.filterMap_eq_nil_iff]
      intro c hc
      simpa [isSeparator] using hpart c hc
    cases parts with
    | nil =>
      obtain rfl : gaps = [] := List.length_eq_zero_iff.mp (by simpa using hgaps)
      simp [weave, List.splitOnP_eq_singleton hpart, hnone]
    | cons next parts =>
      cases gaps with
      | nil => simp at hgaps
      | cons gap gaps =>
        obtain ⟨h1, h2⟩ := ih gaps (by simpa using hgaps) (by simp)
          fun p hp => hparts p (List.mem_cons_of_mem _ hp)
        rw [weave_cons_cons]
        constructor
        · rw [List.splitOnP_append_cons_of_forall_mem hpart _ gap.isSeparator_char, h1]
        · rw [List.filterMap_append, hnone, List.filterMap_cons, Separator.ofChar?_char, h2]
          rfl

theorem split_parts_ne_nil (answer : List Char) : (split answer).parts ≠ [] :=
  List.splitOnP_ne_nil _ _

theorem isLettered_of_isStarred {answer : List Char} (h : isStarred answer = true) :
    isLettered answer = true := by
  rw [isStarred, Bool.and_eq_true, List.all_eq_true] at h
  rw [isLettered, Bool.and_eq_true, List.all_eq_true]
  refine ⟨h.1, fun c hc => ?_⟩
  rw [Bool.or_assoc, h.2 c hc, Bool.or_true]

theorem isSeparator_of_isDigit {c : Char} (h : c.isDigit = true) : isSeparator c = false := by
  have hne : c ≠ ',' ∧ c ≠ '-' := by constructor <;> rintro rfl <;> exact absurd h (by decide)
  simp [isSeparator, Separator.ofChar?, hne.1, hne.2]

theorem toNat_of_isCapital {c : Char} (h : isCapital c = true) : 65 ≤ c.toNat ∧ c.toNat ≤ 90 := by
  simpa [isCapital, Char.le_def, UInt32.le_iff_toNat_le] using h

theorem isDigit_of_mem_writeLength {piece : List Char} {c : Char} (h : c ∈ writeLength piece) :
    c.isDigit = true := by
  rw [writeLength] at h
  split at h
  · cases h
  · rw [toList_toString] at h
    exact isDigit_of_mem_toDigits h

-- The pieces of the lengths are the lengths of the pieces.
theorem split_lengthsOnly {answer : List Char} (h : isLettered answer = true) :
    split (lengthsOnly answer) = (split answer).map writeLength := by
  rw [lengthsOnly, if_pos h]
  apply split_text
  · simpa [Phrase.map] using split_parts_ne_nil answer
  · intro part hpart c hc
    obtain ⟨piece, -, rfl⟩ := List.mem_map.mp hpart
    exact isSeparator_of_isDigit (isDigit_of_mem_writeLength hc)

-- The letters that one piece of an answer stands for.
def spell (piece : List Char) : List Char :=
  if isNumeral piece then List.replicate (Nat.ofDigitChars 10 piece 0) star else piece

def wordsOf (answer : List Char) : List (List Char) := (split answer).parts.map spell

def lettersOf (answer : List Char) : List Char := (wordsOf answer).flatten

theorem lettersOf_ne_nil {answer : List Char} (hwords : ∀ w ∈ wordsOf answer, w ≠ []) :
    lettersOf answer ≠ [] := by
  have hne : wordsOf answer ≠ [] := by simpa [wordsOf] using split_parts_ne_nil answer
  obtain ⟨w, hw⟩ := List.exists_mem_of_ne_nil _ hne
  intro hnil
  exact hwords w hw (List.flatten_eq_nil_iff.mp hnil w hw)

theorem eq_star_of_mem_split {answer piece : List Char} (h : isStarred answer = true)
    (hpiece : piece ∈ (split answer).parts) : piece = List.replicate piece.length star := by
  rw [List.eq_replicate_iff]
  refine ⟨rfl, fun c hc => ?_⟩
  obtain ⟨hmem, hsep⟩ := mem_of_mem_splitOnP hpiece c hc
  rw [isStarred, Bool.and_eq_true, List.all_eq_true] at h
  simpa [hsep] using h.2 c hmem

theorem isNumeral_eq_false_of_mem_split {answer piece : List Char} (h : isLettered answer = true)
    (hpiece : piece ∈ (split answer).parts) : isNumeral piece = false := by
  cases piece with
  | nil => rfl
  | cons c cs =>
    obtain ⟨hmem, hsep⟩ := mem_of_mem_splitOnP hpiece c (by simp)
    rw [isLettered, Bool.and_eq_true, List.all_eq_true] at h
    have hclass := h.2 c hmem
    simp only [hsep, Bool.or_false, Bool.or_eq_true, beq_iff_eq] at hclass
    have hdigit : c.isDigit = false := by
      rw [← Bool.not_eq_true]
      intro hd
      rcases hclass with hcap | rfl
      · have hlow := toNat_of_isDigit hd
        have hhigh := toNat_of_isCapital hcap
        omega
      · exact absurd hd (by decide)
    simp [isNumeral, hdigit]

-- The words of a lettered answer are its pieces as they stand.
theorem wordsOf_of_isLettered {answer : List Char} (h : isLettered answer = true) :
    wordsOf answer = (split answer).parts := by
  rw [wordsOf]
  refine (List.map_congr_left fun piece hpiece => ?_).trans (List.map_id _)
  rw [spell, isNumeral_eq_false_of_mem_split h hpiece]
  rfl

theorem flaw?_eq_none_iff (piece : List Char) : flaw? piece = none ↔ spell piece ≠ [] := by
  rw [flaw?, spell]
  by_cases hn : isNumeral piece = true
  · by_cases hz : Nat.ofDigitChars 10 piece 0 = 0 <;> simp [hn, hz]
  · by_cases he : piece = []
    · subst he
      simp [isNumeral]
    · simp [hn, he]

theorem expand_eq_spell {piece : List Char} (h : (expand piece).length < longestWord) :
    expand piece = spell piece := by
  rw [expand] at h ⊢
  rw [spell]
  split
  · next hn =>
    rw [if_pos hn, List.length_replicate] at h
    rw [Nat.min_eq_left (by omega)]
  · rfl

theorem expand_eq_spell_of_le {piece : List Char} (h : (spell piece).length ≤ longestWord) :
    expand piece = spell piece := by
  rw [spell] at h ⊢
  rw [expand]
  split
  · next hn =>
    rw [if_pos hn, List.length_replicate] at h
    rw [Nat.min_eq_left h]
  · rfl

theorem length_expand_le_spell (piece : List Char) :
    (expand piece).length ≤ (spell piece).length := by
  rw [expand, spell]
  split
  · simp only [List.length_replicate]
    exact Nat.min_le_left _ _
  · exact Nat.le_refl _

theorem spell_writeLength (piece : List Char) :
    spell (writeLength piece) = List.replicate piece.length star := by
  rw [writeLength]
  split
  · next h =>
    rw [List.isEmpty_iff] at h
    rw [h]
    rfl
  · rw [toList_toString, spell, if_pos (isNumeral_toDigits _), Nat.ofDigitChars_ten_toDigits]

-- Placeholders spell the same as their lengths.
theorem wordsOf_unpack_answer (answer : List Char) : wordsOf (unpack answer).answer = wordsOf answer := by
  rw [unpack]
  dsimp only
  split
  · next h =>
    have hl := isLettered_of_isStarred h
    rw [wordsOf_of_isLettered hl, wordsOf, split_lengthsOnly hl, Phrase.map, List.map_map]
    refine (List.map_congr_left fun piece hpiece => ?_).trans (List.map_id _)
    rw [Function.comp_apply, spell_writeLength, ← eq_star_of_mem_split h hpiece]
    rfl
  · rfl

theorem unpack_words (answer : List Char) :
    (unpack answer).words = (split (unpack answer).answer).parts.map expand := rfl

theorem unpack_flaws (answer : List Char) :
    (unpack answer).flaws = (split (unpack answer).answer).parts.filterMap flaw? := rfl

theorem unpack_flaws_eq_nil_iff (answer : List Char) :
    (unpack answer).flaws = [] ↔ ∀ w ∈ wordsOf answer, w ≠ [] := by
  rw [unpack_flaws, List.filterMap_eq_nil_iff, ← wordsOf_unpack_answer, wordsOf, List.forall_mem_map]
  exact forall₂_congr fun piece _ => flaw?_eq_none_iff piece

theorem unpack_words_of_le {answer : List Char}
    (h : ∀ w ∈ wordsOf answer, w.length ≤ longestWord) : (unpack answer).words = wordsOf answer := by
  rw [← wordsOf_unpack_answer, wordsOf, List.forall_mem_map] at h
  rw [← wordsOf_unpack_answer, unpack_words, wordsOf]
  exact List.map_congr_left fun piece hpiece => expand_eq_spell_of_le (h piece hpiece)

-- Letters are never cut short, however many there are.
theorem unpack_words_of_isLettered {answer : List Char} (hl : isLettered answer = true)
    (hs : isStarred answer = false) : (unpack answer).words = wordsOf answer := by
  have hsame : (unpack answer).answer = answer := by simp [unpack, hs]
  rw [unpack_words, hsame, wordsOf]
  apply List.map_congr_left
  intro piece hpiece
  rw [expand, spell, isNumeral_eq_false_of_mem_split hl hpiece]
  rfl

-- The cap on lengths shows only in answers that are too long for any grid.
theorem unpack_words_eq {answer : List Char}
    (h : (unpack answer).letters.length < longestWord ∨ (lettersOf answer).length < longestWord) :
    (unpack answer).words = wordsOf answer := by
  rw [← wordsOf_unpack_answer, unpack_words, wordsOf]
  apply List.map_congr_left
  intro piece hpiece
  apply expand_eq_spell
  rcases h with h | h
  · refine Nat.lt_of_le_of_lt ?_ h
    exact (List.sublist_flatten_of_mem (List.mem_map_of_mem hpiece)).length_le
  · refine Nat.lt_of_le_of_lt (length_expand_le_spell piece) (Nat.lt_of_le_of_lt ?_ h)
    rw [lettersOf, ← wordsOf_unpack_answer]
    exact (List.sublist_flatten_of_mem (List.mem_map_of_mem hpiece)).length_le

end Cruciverb.Answer
