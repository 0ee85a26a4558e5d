import Cruciverb.Proofs.Text.Collapsed
import Cruciverb.Text.Caseless

namespace Cruciverb.Text

-- The first sign of the line that is not blank is one of those.
def Begins (P : Char → Prop) (line : List Char) : Prop :=
  ∃ c, (trimStart line).head? = some c ∧ P c

variable {P : Char → Prop} {c : Char} {line cs : List Char}

theorem begins_cons_of_blank (hc : isBlank c = true) : Begins P (c :: line) ↔ Begins P line := by
  rw [Begins, Begins, trimStart, List.dropWhile_cons_of_pos hc, trimStart]

theorem begins_cons_of_not_blank (hc : isBlank c = false) : Begins P (c :: line) ↔ P c := by
  rw [Begins, trimStart, List.dropWhile_cons_of_neg (by simp [hc])]
  simp

theorem lines_cons_of_isLineEnd (hc : isLineEnd c = true) : lines (c :: cs) = [] :: lines cs := by
  rw [lines, List.splitOnP_cons_eq_if_modifyHead, if_pos hc, lines]

theorem exists_lines_cons (hc : isLineEnd c = false) :
    ∃ first rest, lines cs = first :: rest ∧ lines (c :: cs) = (c :: first) :: rest := by
  obtain ⟨first, rest, hlines⟩ :=
    List.exists_cons_of_ne_nil (List.splitOnP_ne_nil isLineEnd cs)
  refine ⟨first, rest, hlines, ?_⟩
  rw [lines, List.splitOnP_cons_eq_if_modifyHead, hc, hlines]
  rfl

-- The first sign of a text is the first sign of a line.
theorem exists_begins_of_head? (h : (trimStart cs).head? = some c) (hP : P c) :
    ∃ l ∈ lines cs, Begins P l := by
  induction cs with
  | nil => cases h
  | cons b cs ih =>
    by_cases hb : isBlank b = true
    · obtain ⟨l, hl, hbegins⟩ := ih (by rwa [trimStart, List.dropWhile_cons_of_pos hb] at h)
      by_cases hend : isLineEnd b = true
      · rw [lines_cons_of_isLineEnd hend]
        exact ⟨l, List.mem_cons_of_mem _ hl, hbegins⟩
      · obtain ⟨first, rest, hcs, hlines⟩ := @exists_lines_cons b cs (by simpa using hend)
        rw [hcs, List.mem_cons] at hl
        rw [hlines]
        rcases hl with rfl | hl
        · exact ⟨_, List.mem_cons_self, (begins_cons_of_blank hb).mpr hbegins⟩
        · exact ⟨l, List.mem_cons_of_mem _ hl, hbegins⟩
    · have hb : isBlank b = false := by simpa using hb
      rw [trimStart, List.dropWhile_cons_of_neg (by simp [hb]), List.head?_cons,
        Option.some.injEq] at h
      obtain ⟨first, rest, -, hlines⟩ := @exists_lines_cons b cs (isLineEnd_eq_false hb)
      rw [hlines]
      exact ⟨_, List.mem_cons_self, (begins_cons_of_not_blank hb).mpr (h ▸ hP)⟩

-- Cleaning a line keeps its first sign, unless it opens a comment.
theorem exists_cleanLine_eq (h : Begins P line) (hP : ¬ P '#') :
    ∃ c rest, P c ∧ cleanLine line = c :: rest := by
  induction line with
  | nil =>
    obtain ⟨c, hc, -⟩ := h
    cases hc
  | cons b line ih =>
    by_cases hb : isBlank b = true
    · have hne : b ≠ '#' := by
        rintro rfl
        exact absurd hb (by decide)
      have hclean : cleanLine (b :: line) = cleanLine line := by
        rw [cleanLine, dropComment, List.takeWhile_cons_of_pos (by simpa using hne), trim, trimStart,
          List.dropWhile_cons_of_pos hb, ← trimStart, ← dropComment, cleanLine, trim]
      rw [hclean]
      exact ih ((begins_cons_of_blank hb).mp h)
    · have hb : isBlank b = false := by simpa using hb
      have hPb : P b := (begins_cons_of_not_blank hb).mp h
      have hne : b ≠ '#' := fun heq => hP (heq ▸ hPb)
      refine ⟨b, trimEnd (line.takeWhile (· ≠ '#')), hPb, ?_⟩
      rw [cleanLine, dropComment, List.takeWhile_cons_of_pos (by simpa using hne), trim, trimStart,
        List.dropWhile_cons_of_neg (by simp [hb])]
      exact trimEnd_append_cons [] hb _

-- Folding differs from taking the small letter only where it comes to an s or a k.
theorem toLower_of_fold (hfold : fold c = 'q') : c.toLower = 'q' := by
  rw [fold] at hfold
  split at hfold
  · cases hfold
  · split at hfold
    · cases hfold
    · exact hfold

theorem toLower_eq_self (h : c.toNat < 65 ∨ 90 < c.toNat) : c.toLower = c := by
  refine dif_neg fun hupper => ?_
  have hval : c.val.toNat = c.toNat := rfl
  simp [UInt32.le_iff_toNat_le] at hupper
  omega

-- No blank is a letter.
theorem fold_of_isBlank (h : isBlank c = true) : fold c = c := by
  have hs : c ≠ '\u017F' := by
    rintro rfl
    exact absurd h (by decide)
  have hk : c ≠ '\u212A' := by
    rintro rfl
    exact absurd h (by decide)
  rw [fold, if_neg hs, if_neg hk, toLower_eq_self]
  simp only [isBlank, Bool.or_eq_true, Bool.and_eq_true, decide_eq_true_eq, beq_iff_eq] at h
  omega

theorem not_blank_of_not_blank_fold (h : isBlank (fold c) = false) : isBlank c = false := by
  rw [← Bool.not_eq_true]
  intro hblank
  rw [fold_of_isBlank hblank, hblank] at h
  cases h

theorem not_blank_of_fold (hfold : fold c = 'q') : isBlank c = false :=
  not_blank_of_not_blank_fold (by rw [hfold]; decide)

end Cruciverb.Text
