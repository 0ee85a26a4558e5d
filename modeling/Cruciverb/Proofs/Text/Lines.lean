import Cruciverb.Text.Line
import Mathlib.Data.List.TakeWhile

namespace Cruciverb.Text

-- Neither cutting into lines nor taking comments away changes such a text.
structure Whole (cs : List Char) : Prop where
  noLineEnd : ∀ c ∈ cs, isLineEnd c = false
  noComment : '#' ∉ cs

-- No blank at either end.
structure Trimmed (cs : List Char) : Prop where
  head : ∀ c, cs.head? = some c → isBlank c = false
  last : ∀ c, cs.getLast? = some c → isBlank c = false

-- A line as cleaning hands it out.
structure Clean (cs : List Char) : Prop extends Whole cs, Trimmed cs

theorem whole_iff {cs : List Char} : Whole cs ↔ cs.all (!isLineEnd ·) = true ∧ '#' ∉ cs := by
  have hall : cs.all (!isLineEnd ·) = true ↔ ∀ c ∈ cs, isLineEnd c = false := by simp
  rw [hall]
  exact ⟨fun h => ⟨h.noLineEnd, h.noComment⟩, fun h => ⟨h.1, h.2⟩⟩

-- The check runs through the line, and not through all characters there are.
instance (cs : List Char) : Decidable (Whole cs) := decidable_of_iff' _ whole_iff

@[simp] theorem whole_nil : Whole [] := ⟨by simp, by simp⟩

@[simp] theorem whole_cons {c : Char} {cs : List Char} :
    Whole (c :: cs) ↔ (isLineEnd c = false ∧ c ≠ '#') ∧ Whole cs := by
  constructor
  · intro h
    refine ⟨⟨h.noLineEnd c (by simp), ?_⟩, ?_, ?_⟩
    · rintro rfl
      exact h.noComment (by simp)
    · exact fun d hd => h.noLineEnd d (List.mem_cons_of_mem _ hd)
    · exact fun hd => h.noComment (List.mem_cons_of_mem _ hd)
  · rintro ⟨⟨hend, hne⟩, h⟩
    constructor
    · intro d hd
      rcases List.mem_cons.mp hd with rfl | hd
      · exact hend
      · exact h.noLineEnd d hd
    · intro hd
      rcases List.mem_cons.mp hd with heq | hd
      · exact hne heq.symm
      · exact h.noComment hd

@[simp] theorem whole_append {cs ds : List Char} : Whole (cs ++ ds) ↔ Whole cs ∧ Whole ds := by
  induction cs with
  | nil => simp
  | cons c cs ih => simp [ih, and_assoc]

theorem Whole.of_subset {cs ds : List Char} (hd : Whole ds) (hsub : ∀ c ∈ cs, c ∈ ds) :
    Whole cs :=
  ⟨fun c hc => hd.noLineEnd c (hsub c hc), fun hc => hd.noComment (hsub _ hc)⟩

theorem Whole.noNewline {cs : List Char} (h : Whole cs) : '\n' ∉ cs := by
  intro hm
  have := h.noLineEnd _ hm
  simp [isLineEnd] at this

theorem trimStart_eq_self {cs : List Char} (h : ∀ c, cs.head? = some c → isBlank c = false) :
    trimStart cs = cs := by
  cases cs with
  | nil => rfl
  | cons c cs => simp [trimStart, h c rfl]

theorem Trimmed.trim_eq {cs : List Char} (h : Trimmed cs) : trim cs = cs := by
  have hlast : trimStart cs.reverse = cs.reverse :=
    trimStart_eq_self (by simpa [List.head?_reverse] using h.last)
  rw [trim, trimStart_eq_self h.head, trimEnd]
  change (trimStart cs.reverse).reverse = cs
  rw [hlast, List.reverse_reverse]

theorem dropComment_eq_self {cs : List Char} (h : '#' ∉ cs) : dropComment cs = cs := by
  rw [dropComment, List.takeWhile_eq_self_iff]
  intro c hc
  simpa using fun heq : c = '#' => h (heq ▸ hc)

theorem Clean.cleanLine_eq {cs : List Char} (h : Clean cs) : cleanLine cs = cs := by
  rw [cleanLine, dropComment_eq_self h.noComment, h.toTrimmed.trim_eq]

theorem mem_of_mem_trimEnd {cs : List Char} {c : Char} (h : c ∈ trimEnd cs) : c ∈ cs := by
  rw [trimEnd, List.mem_reverse] at h
  exact List.mem_reverse.mp ((List.dropWhile_sublist _).subset h)

theorem mem_trimEnd_iff {cs : List Char} {c : Char} (hc : isBlank c = false) :
    c ∈ trimEnd cs ↔ c ∈ cs := by
  refine ⟨mem_of_mem_trimEnd, fun h => ?_⟩
  rw [← List.mem_reverse, ← List.takeWhile_append_dropWhile (p := isBlank) (l := cs.reverse)] at h
  rcases List.mem_append.mp h with hblank | hkept
  · rw [List.mem_takeWhile_imp hblank] at hc
    cases hc
  · exact List.mem_reverse.mpr hkept

theorem mem_of_mem_trim {cs : List Char} {c : Char} (h : c ∈ trim cs) : c ∈ cs :=
  (List.dropWhile_sublist _).subset (mem_of_mem_trimEnd h)

theorem trimEnd_append_cons (front : List Char) {c : Char} (hc : isBlank c = false)
    (rest : List Char) : trimEnd (front ++ c :: rest) = front ++ c :: trimEnd rest := by
  have hrev : (front ++ c :: rest).reverse = rest.reverse ++ c :: front.reverse := by simp
  have hstop : (c :: front.reverse).dropWhile isBlank = c :: front.reverse :=
    List.dropWhile_cons_of_neg (by simp [hc])
  rw [trimEnd, hrev, List.dropWhile_append]
  split
  · next hempty =>
    rw [List.isEmpty_iff] at hempty
    rw [hstop, trimEnd, hempty]
    simp
  · rw [trimEnd]
    simp

theorem getLast?_trimEnd_not_blank {cs : List Char} {c : Char} (h : (trimEnd cs).getLast? = some c) :
    isBlank c = false := by
  rw [trimEnd, List.getLast?_reverse] at h
  exact head?_trimStart_not_blank h

theorem exists_blanks_behind_trimEnd (cs : List Char) :
    ∃ blanks, cs = trimEnd cs ++ blanks ∧ ∀ c ∈ blanks, isBlank c = true := by
  refine ⟨(cs.reverse.takeWhile isBlank).reverse, ?_, fun c hc => ?_⟩
  · rw [trimEnd, ← List.reverse_append, List.takeWhile_append_dropWhile, List.reverse_reverse]
  · exact List.mem_takeWhile_imp (List.mem_reverse.mp hc)

theorem trimEnd_append_blanks {front blanks : List Char}
    (hfront : ∀ c, front.getLast? = some c → isBlank c = false)
    (hblanks : ∀ c ∈ blanks, isBlank c = true) : trimEnd (front ++ blanks) = front := by
  have hback : ∀ c ∈ blanks.reverse, isBlank c = true := fun c hc => hblanks c (List.mem_reverse.mp hc)
  rw [trimEnd, List.reverse_append, List.dropWhile_append_of_pos hback]
  change (trimStart front.reverse).reverse = front
  rw [trimStart_eq_self (by simpa [List.head?_reverse] using hfront), List.reverse_reverse]

theorem trimStart_blanks_append {blanks rest : List Char} (hblanks : ∀ c ∈ blanks, isBlank c = true)
    (hrest : ∀ c, rest.head? = some c → isBlank c = false) : trimStart (blanks ++ rest) = rest := by
  rw [trimStart, List.dropWhile_append_of_pos hblanks]
  exact trimStart_eq_self hrest

theorem trimmed_trim (cs : List Char) : Trimmed (trim cs) := by
  constructor
  · intro c hc
    rw [trim, trimEnd, List.head?_reverse] at hc
    -- what trimming at the end leaves is a part of the front of what it was given
    obtain ⟨tail, htail⟩ := List.dropWhile_suffix (l := (trimStart cs).reverse) isBlank
    have hfront : trimStart cs = ((trimStart cs).reverse.dropWhile isBlank).reverse ++ tail.reverse := by
      rw [← List.reverse_append, htail, List.reverse_reverse]
    refine @head?_trimStart_not_blank cs c ?_
    rw [hfront, List.head?_append, List.head?_reverse, hc, Option.some_or]
  · exact fun c hc => getLast?_trimEnd_not_blank hc

theorem isBlank_of_isLineEnd {c : Char} (h : isLineEnd c = true) : isBlank c = true := by
  rw [isLineEnd, Bool.or_eq_true, beq_iff_eq, beq_iff_eq] at h
  rcases h with rfl | rfl <;> decide

theorem isLineEnd_eq_false {c : Char} (h : isBlank c = false) : isLineEnd c = false := by
  rw [← Bool.not_eq_true]
  intro hend
  rw [isBlank_of_isLineEnd hend] at h
  cases h

-- A piece holds what is cut, but no separator.
theorem mem_of_mem_splitOnP {α : Type} {p : α → Bool} {as piece : List α}
    (h : piece ∈ as.splitOnP p) : ∀ a ∈ piece, a ∈ as ∧ p a = false := by
  induction as generalizing piece with
  | nil =>
    rw [List.splitOnP_nil, List.mem_singleton] at h
    simp [h]
  | cons a as ih =>
    have ih {piece : List α} (h : piece ∈ as.splitOnP p) :
        ∀ b ∈ piece, b ∈ a :: as ∧ p b = false :=
      fun b hb => ⟨List.mem_cons_of_mem _ (ih h b hb).1, (ih h b hb).2⟩
    rw [List.splitOnP_cons_eq_if_modifyHead] at h
    split at h
    · rcases List.mem_cons.mp h with rfl | h
      · simp
      · exact ih h
    · next hp =>
      cases hs : as.splitOnP p with
      | nil => exact absurd hs (List.splitOnP_ne_nil _ _)
      | cons first rest =>
        rw [hs] at h ih
        rcases List.mem_cons.mp h with rfl | h
        · intro b hb
          rcases List.mem_cons.mp hb with rfl | hb
          · exact ⟨List.mem_cons_self, by simpa using hp⟩
          · exact ih List.mem_cons_self b hb
        · exact ih (List.mem_cons_of_mem _ h)

theorem clean_cleanLine {raw : List Char} (h : ∀ c ∈ raw, isLineEnd c = false) :
    Clean (cleanLine raw) := by
  have hsub : ∀ c ∈ cleanLine raw, c ∈ dropComment raw := fun c hc => mem_of_mem_trim hc
  refine { trimmed_trim (dropComment raw) with noLineEnd := ?_, noComment := ?_ }
  · intro c hc
    exact h c ((List.takeWhile_sublist _).subset (hsub c hc))
  · intro hc
    have := List.mem_takeWhile_imp (hsub _ hc)
    simp at this

theorem clean_iff {cs : List Char} :
    Clean cs ↔ cs.all (!isLineEnd ·) = true ∧ cleanLine cs = cs := by
  have hall : cs.all (!isLineEnd ·) = true ↔ ∀ c ∈ cs, isLineEnd c = false := by simp
  rw [hall]
  exact ⟨fun h => ⟨h.noLineEnd, h.cleanLine_eq⟩, fun ⟨hno, heq⟩ => heq ▸ clean_cleanLine hno⟩

instance (cs : List Char) : Decidable (Clean cs) := decidable_of_iff' _ clean_iff

theorem clean_of_mem_cleanLines {cs line : List Char} (h : line ∈ cleanLines cs) : Clean line := by
  obtain ⟨raw, hraw, rfl⟩ := List.mem_map.mp h
  exact clean_cleanLine fun c hc => (mem_of_mem_splitOnP hraw c hc).2

theorem lines_intercalate {ls : List (List Char)} (hne : ls ≠ [])
    (h : ∀ l ∈ ls, ∀ c ∈ l, isLineEnd c = false) : lines (['\n'].intercalate ls) = ls := by
  induction ls with
  | nil => exact absurd rfl hne
  | cons l rest ih =>
    cases rest with
    | nil =>
      rw [List.intercalate_singleton, lines, List.splitOnP_eq_singleton (h l (by simp))]
    | cons next rest =>
      rw [List.intercalate_cons_cons, lines, List.append_assoc, List.singleton_append,
        List.splitOnP_append_cons_of_forall_mem (h l (by simp)) '\n' (by decide)]
      exact congrArg (l :: ·) (ih (by simp) fun m hm => h m (List.mem_cons_of_mem _ hm))

theorem cleanLines_intercalate {ls : List (List Char)} (hne : ls ≠ [])
    (h : ∀ l ∈ ls, ∀ c ∈ l, isLineEnd c = false) :
    cleanLines (['\n'].intercalate ls) = ls.map cleanLine := by
  rw [cleanLines, lines_intercalate hne h]

end Cruciverb.Text
