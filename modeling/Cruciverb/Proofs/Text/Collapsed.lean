import Cruciverb.Proofs.Text.Lines

namespace Cruciverb.Text

theorem mem_words {cs w : List Char} (h : w ∈ words cs) :
    w ≠ [] ∧ ∀ c ∈ w, c ∈ cs ∧ isBlank c = false := by
  rw [words, List.mem_filter] at h
  exact ⟨by simpa using h.2, mem_of_mem_splitOnP h.1⟩

theorem mem_intercalate {sep : Char} {ls : List (List Char)} {c : Char}
    (h : c ∈ [sep].intercalate ls) : c = sep ∨ ∃ l ∈ ls, c ∈ l := by
  induction ls with
  | nil => simp at h
  | cons l ls ih =>
    cases ls with
    | nil => exact .inr ⟨l, by simp, by simpa using h⟩
    | cons next ls =>
      rw [List.intercalate_cons_cons, List.append_assoc, List.mem_append, List.mem_append,
        List.mem_singleton] at h
      rcases h with h | h | h
      · exact .inr ⟨l, by simp, h⟩
      · exact .inl h
      · rcases ih h with h | ⟨m, hm, h⟩
        · exact .inl h
        · exact .inr ⟨m, List.mem_cons_of_mem _ hm, h⟩

theorem getLast?_intercalate {sep : Char} {ls : List (List Char)} (hne : ∀ l ∈ ls, l ≠ [])
    {c : Char} (h : ([sep].intercalate ls).getLast? = some c) : ∃ l ∈ ls, c ∈ l := by
  induction ls with
  | nil => cases h
  | cons l ls ih =>
    rw [List.forall_mem_cons] at hne
    cases ls with
    | nil =>
      rw [List.intercalate_singleton] at h
      exact ⟨l, List.mem_cons_self, List.mem_of_getLast? h⟩
    | cons next ls =>
      have hnext : [sep].intercalate (next :: ls) ≠ [] := by
        cases ls with
        | nil =>
          rw [List.intercalate_singleton]
          exact hne.2 next List.mem_cons_self
        | cons second ls => simp [List.intercalate_cons_cons]
      obtain ⟨last, hlast⟩ := Option.isSome_iff_exists.mp (List.getLast?_isSome.mpr hnext)
      rw [List.intercalate_cons_cons, List.getLast?_append, hlast, Option.some_or] at h
      obtain ⟨m, hm, hc⟩ := ih hne.2 (hlast.trans h)
      exact ⟨m, List.mem_cons_of_mem _ hm, hc⟩

variable {cs : List Char}

theorem eq_space_of_mem_collapse {c : Char} (hc : c ∈ collapse cs) (hblank : isBlank c = true) :
    c = ' ' := by
  rcases mem_intercalate hc with h | ⟨w, hw, hcw⟩
  · exact h
  · rw [((mem_words hw).2 c hcw).2] at hblank
    cases hblank

theorem noLineEnd_collapse : ∀ c ∈ collapse cs, isLineEnd c = false := by
  intro c hc
  rw [← Bool.not_eq_true]
  intro hend
  rw [eq_space_of_mem_collapse hc (isBlank_of_isLineEnd hend)] at hend
  exact absurd hend (by decide)

theorem head_collapse {c : Char} (h : (collapse cs).head? = some c) : isBlank c = false := by
  rw [collapse] at h
  cases hw : words cs with
  | nil =>
    rw [hw] at h
    simp at h
  | cons w ws =>
    obtain ⟨hne, hmem⟩ := mem_words (hw ▸ List.mem_cons_self : w ∈ words cs)
    obtain ⟨d, ds, rfl⟩ := List.exists_cons_of_ne_nil hne
    have hfirst : ([' '].intercalate ((d :: ds) :: ws)).head? = some d := by
      cases ws with
      | nil => rfl
      | cons next ws => rfl
    rw [hw, hfirst, Option.some.injEq] at h
    exact h ▸ (hmem d List.mem_cons_self).2

theorem trimmed_collapse (cs : List Char) : Trimmed (collapse cs) where
  head _ := head_collapse
  last c hc := by
    obtain ⟨w, hw, hcw⟩ := getLast?_intercalate (fun w hw => (mem_words hw).1) hc
    exact ((mem_words hw).2 c hcw).2

end Cruciverb.Text
