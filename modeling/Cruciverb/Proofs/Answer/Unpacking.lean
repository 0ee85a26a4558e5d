import Cruciverb.Proofs.Answer.Display

namespace Cruciverb.Answer

open Cruciverb.Text

section Apply

variable {f : Format} {letters : List Char}

theorem letters_ne_nil (hparts : f.parts ≠ []) (hpos : ∀ n ∈ f.parts, 0 < n.toNat)
    (h : f.Fills letters) : letters ≠ [] := by
  obtain ⟨n, hn⟩ := List.exists_mem_of_ne_nil _ hparts
  rintro rfl
  have hzero := List.sum_eq_zero_iff_forall_eq_nat.mp h.1 n.toNat (List.mem_map_of_mem hn)
  have := hpos n hn
  omega

theorem lengthsOnly_apply_eq_text (hplain : Plain letters) (h : f.Fills letters)
    (hne : letters ≠ []) (hpos : ∀ n ∈ f.parts, 0 < n.toNat) :
    lengthsOnly (f.apply letters) = f.text := by
  have hsplit := Format.split_apply hplain h hne
  have hwritten : (Format.cut letters 0 f.parts).map writeLength =
      f.parts.map fun n => (toString n.toNat).toList := by
    have hwords := Format.words_apply_ne_nil hplain h hne hpos
    rw [Format.wordsOf_apply hplain h hne] at hwords
    have hlengths := congrArg (List.map fun n => (toString n).toList) (Format.lengths_cut h)
    rw [List.map_map, List.map_map] at hlengths
    refine Eq.trans (List.map_congr_left fun w hw => ?_) hlengths
    rw [writeLength_eq (hwords w hw), Function.comp_apply, toList_toString]
  rw [lengthsOnly, if_pos (Format.isLettered_apply hplain h hne), hsplit]
  simp only [Phrase.text, Phrase.map, Format.pieces, Format.text, hwritten]

-- Placeholders in place of all letters are checked by their lengths, and come to the same words.
theorem unpack_words_apply (hplain : Plain letters) (h : f.Fills letters) (hne : letters ≠ [])
    (hle : ∀ n ∈ f.parts, n.toNat ≤ longestWord) :
    (unpack (f.apply letters)).words = Format.cut letters 0 f.parts := by
  rw [← Format.wordsOf_apply hplain h hne]
  apply unpack_words_of_le
  intro w hw
  rw [Format.wordsOf_apply hplain h hne] at hw
  have hlength : w.length ∈ f.parts.map UInt64.toNat := by
    rw [← Format.lengths_cut h]
    exact List.mem_map_of_mem hw
  obtain ⟨n, hn, hwn⟩ := List.mem_map.mp hlength
  rw [← hwn]
  exact hle n hn

end Apply

section Read

variable {answer : List Char}

theorem tidy_lengthsOnly (hl : isLettered answer = true) (hpieces : ∀ p ∈ (split answer).parts, p ≠ []) :
    Tidy (lengthsOnly answer) := by
  intro written hwritten
  rw [split_lengthsOnly hl] at hwritten
  obtain ⟨piece, hpiece, rfl⟩ := List.mem_map.mp hwritten
  rw [writeLength_eq (hpieces piece hpiece)]
  exact head_toDigits (List.length_pos_iff.mpr (hpieces piece hpiece))

-- The pieces hold everything but the separators.
theorem flatten_split (cs : List Char) :
    (split cs).parts.flatten = cs.filter fun c => !isSeparator c := by
  induction cs with
  | nil => rfl
  | cons c cs ih =>
    simp only [split] at ih ⊢
    rw [List.splitOnP_cons_eq_if_modifyHead]
    by_cases hc : isSeparator c = true
    · rw [if_pos hc, List.flatten_cons, ih, List.nil_append, List.filter_cons_of_neg (by simp [hc])]
    · rw [if_neg hc, List.filter_cons_of_pos (by simp [hc]), ← ih]
      cases hp : cs.splitOnP isSeparator with
      | nil => exact absurd hp (List.splitOnP_ne_nil _ _)
      | cons piece pieces => rfl

theorem isAnswer_of_isLettered (hl : isLettered answer = true) : Line.isAnswer answer = true := by
  rw [Line.isAnswer, hl, Bool.true_or]

theorem length_lettersOf_le (hl : isLettered answer = true) :
    (lettersOf answer).length ≤ answer.length := by
  rw [lettersOf, wordsOf_of_isLettered hl, flatten_split]
  exact List.length_filter_le _ _

theorem apply_lettersOf (hl : isLettered answer = true)
    (hpieces : ∀ p ∈ (split answer).parts, p ≠ []) (hlt : answer.length < wordLimit) :
    ∃ f, Format.read (lengthsOnly answer) = .ok f ∧ f.applied? (lettersOf answer) = some answer := by
  have hletters : (lettersOf answer).length < wordLimit :=
    Nat.lt_of_le_of_lt (length_lettersOf_le hl) hlt
  have hwords : ∀ w ∈ wordsOf answer, w ≠ [] := by rwa [wordsOf_of_isLettered hl]
  obtain ⟨f, hread, hparts, hgaps⟩ :=
    read_lengthsOnly (isAnswer_of_isLettered hl) hwords (tidy_lengthsOnly hl hpieces) fun w hw =>
      Nat.lt_of_le_of_lt (List.sublist_flatten_of_mem hw).length_le hletters
  have happly : f.apply (lettersOf answer) = answer := by
    rw [Format.apply, hparts, hgaps, lettersOf, cut_flatten hletters, wordsOf_of_isLettered hl,
      split_lengthsOnly hl]
    exact text_split answer
  exact ⟨f, hread, (fills_flatten hparts hletters).applied?_eq.trans (congrArg some happly)⟩

end Read

theorem isLettered_of_signs {answer : List Char}
    (hsigns : ∀ c ∈ answer, isCapital c = true ∨ c = star ∨ isSeparator c = true)
    (hne : answer ≠ []) : isLettered answer = true := by
  rw [isLettered, Bool.and_eq_true, List.all_eq_true]
  refine ⟨by simpa using hne, fun c hc => ?_⟩
  simpa [or_assoc] using hsigns c hc

-- The format and the letters decide the answer, and the answer decides the format and the letters. A
-- text of placeholders alone is no answer with letters, as its format is all that is kept of it.
theorem format_unpack_inverse :
    (∀ (f : Format) (letters : List Char),
      f.gaps.length + 1 = f.parts.length →
      (∀ n ∈ f.parts, 0 < n.toNat ∧ n.toNat ≤ longestWord) →
      Plain letters →
      f.Fills letters →
        f.total? = some letters.length ∧ ∃ answer, f.applied? letters = some answer ∧
        lengthsOnly answer = f.text ∧
        Format.read f.text = .ok f ∧
        (unpack answer).numeric = f.text ∧
        (unpack answer).flaws = [] ∧
        (unpack answer).wordLengths = f.parts.map UInt64.toNat ∧
        (unpack answer).letters = letters) ∧
    ∀ answer : List Char,
      (∀ c ∈ answer, isCapital c = true ∨ c = star ∨ isSeparator c = true) →
      (∀ piece ∈ (split answer).parts, piece ≠ []) →
      ¬ (∀ c ∈ answer, c = star ∨ isSeparator c = true) →
      answer.length < wordLimit →
        ∃ f, Format.read (lengthsOnly answer) = .ok f ∧
          f.applied? (unpack answer).letters = some answer := by
  constructor
  · intro f letters hgaps hlengths hplain hfills
    have hpos : ∀ n ∈ f.parts, 0 < n.toNat := fun n hn => (hlengths n hn).1
    have hparts : f.parts ≠ [] := List.ne_nil_of_length_pos (by omega)
    have hne := letters_ne_nil hparts hpos hfills
    have htext := lengthsOnly_apply_eq_text hplain hfills hne hpos
    have hwords := unpack_words_apply hplain hfills hne fun n hn => (hlengths n hn).2
    refine ⟨hfills.total?_eq, _, hfills.applied?_eq, htext, Format.read_text hparts, htext, ?_, ?_, ?_⟩
    · rw [unpack_flaws_eq_nil_iff]
      exact Format.words_apply_ne_nil hplain hfills hne hpos
    · rw [Unpacked.wordLengths, hwords, Format.lengths_cut hfills]
    · rw [Unpacked.letters, hwords, Format.flatten_cut hfills]
  · intro answer hsigns hpieces hcapital hlt
    have hne : answer ≠ [] := by
      rintro rfl
      exact hcapital (by simp)
    have hl := isLettered_of_signs hsigns hne
    have hs : isStarred answer = false := by
      rw [← Bool.not_eq_true]
      intro hs
      rw [isStarred, Bool.and_eq_true, List.all_eq_true] at hs
      exact hcapital fun c hc => by simpa using hs.2 c hc
    rw [Unpacked.letters, unpack_words_of_isLettered hl hs]
    exact apply_lettersOf hl hpieces hlt

theorem format_unpack_inverse_starred :
    let f : Format := ⟨[2, 10, 1], [.hyphen, .comma], rfl⟩
    let letters := List.replicate 13 star
    (∃ answer, f.applied? letters = some answer ∧ lengthsOnly answer = "2-10,1".toList ∧
      (unpack answer).answer = "2-10,1".toList ∧ (unpack answer).wordLengths = [2, 10, 1] ∧
      (unpack answer).letters = letters) ∧
    ∃ g, Format.read "1-3,2".toList = .ok g ∧ g.applied? "*OWLS*".toList = some "*-OWL,S*".toList := by
  intro f letters
  obtain ⟨-, answer, hanswer, htext, -, -, -, hlengths, hletters⟩ :=
    format_unpack_inverse.1 f letters rfl (by decide) (fun c hc => .inr (List.eq_of_mem_replicate hc))
      ⟨rfl, by decide⟩
  have hstarred : answer = "**-**********,*".toList := by
    have hmade : f.applied? letters = some "**-**********,*".toList := by decide +kernel
    exact Option.some.inj (hanswer.symm.trans hmade)
  obtain ⟨g, hread, happly⟩ :=
    format_unpack_inverse.2 "*-OWL,S*".toList (by decide) (by decide) (by decide) (by decide)
  refine ⟨⟨answer, hanswer, by rw [htext]; decide, by rw [hstarred]; decide +kernel, hlengths, hletters⟩,
    g, ?_, ?_⟩
  · rw [← hread]
    exact congrArg Format.read (by decide +kernel)
  · rw [← happly]
    exact congrArg g.applied? (by decide +kernel)

end Cruciverb.Answer
