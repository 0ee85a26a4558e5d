import Cruciverb.Proofs.Puzzle.Rule
import Cruciverb.Puzzle.Validation

namespace Cruciverb

section Letters

variable {step : Nat} {letters grid : List Char}

-- The places that the answer runs through, as they are counted from the second of them on.
theorem index_succ (index step i : Nat) : index + (i + 1) * step = index + step + i * step := by
  rw [Nat.succ_mul]
  omega

theorem forall_index_tail {P : Nat → Prop} {index : Nat} {letter : Char}
    (h : ∀ i < (letter :: letters).length, P (index + i * step)) :
    ∀ i < letters.length, P (index + step + i * step) := by
  intro i hi
  rw [← index_succ]
  exact h (i + 1) (by simpa using hi)

-- No cell of what has been written so far bars the first letter, so that all depends on the others.
theorem agree_cons_iff {index : Nat} {letter : Char} {grid' : List Char} (hindex : index < grid.length)
    (hgrid : ∀ i, grid'[index + step + i * step]? = grid[index + step + i * step]?)
    (hfirst : grid[index] = blankCell ∨ grid[index] = letter) :
    (∀ i l cell, letters[i]? = some l → grid'[index + step + i * step]? = some cell →
      cell = blankCell ∨ cell = l) ↔
    ∀ i l cell, (letter :: letters)[i]? = some l → grid[index + i * step]? = some cell →
      cell = blankCell ∨ cell = l := by
  constructor
  · intro h i l cell hl hcell
    cases i with
    | zero =>
      rw [Nat.zero_mul, Nat.add_zero, List.getElem?_eq_getElem hindex] at hcell
      cases hl
      cases hcell
      exact hfirst
    | succ i => exact h i l cell (by simpa using hl) (by rw [hgrid, ← index_succ]; exact hcell)
  · intro h i l cell hl hcell
    exact h (i + 1) l cell (by simpa using hl) (by rw [index_succ, ← hgrid]; exact hcell)

theorem writeLetters_clash_iff (hstep : 0 < step) (index n : Nat)
    (hin : ∀ i < letters.length, index + i * step < grid.length) :
    (writeLetters step letters index n grid).2 = none ↔
      ∀ i l cell, letters[i]? = some l → grid[index + i * step]? = some cell →
        cell = blankCell ∨ cell = l := by
  induction letters generalizing index n grid with
  | nil => simp [writeLetters]
  | cons letter rest ih =>
    have hindex : index < grid.length := by simpa using hin 0 (by simp)
    have hin' := forall_index_tail (P := (· < grid.length)) hin
    rw [writeLetters, List.getElem?_eq_getElem hindex]
    dsimp only
    split
    · next hblank =>
      rw [ih (index + step) (n + 1) (by simpa using hin')]
      refine agree_cons_iff hindex (fun i => ?_) (.inl hblank)
      exact List.getElem?_set_ne (by omega)
    · next hblank =>
      split
      · next hsame =>
        rw [ih (index + step) (n + 1) hin']
        exact agree_cons_iff hindex (fun _ => rfl) (.inr hsame)
      · next hother =>
        refine iff_of_false (by simp) fun h => ?_
        have hcell : grid[index + 0 * step]? = some grid[index] := by
          rw [Nat.zero_mul, Nat.add_zero, List.getElem?_eq_getElem hindex]
        rcases h 0 letter grid[index] rfl hcell with h | h
        · exact hblank h
        · exact hother h

@[simp] theorem length_writeLetters (index n : Nat) :
    (writeLetters step letters index n grid).1.length = grid.length := by
  induction letters generalizing index n grid with
  | nil => rfl
  | cons letter rest ih =>
    rw [writeLetters]
    repeat' split
    all_goals simp [ih]

-- Places that the answer does not run through are left alone, whatever happens.
theorem writeLetters_of_ne (index n j : Nat) (hj : ∀ i < letters.length, j ≠ index + i * step) :
    (writeLetters step letters index n grid).1[j]? = grid[j]? := by
  induction letters generalizing index n grid with
  | nil => rfl
  | cons letter rest ih =>
    have hindex : j ≠ index := by simpa using hj 0 (by simp)
    have hj' := forall_index_tail (P := (j ≠ ·)) hj
    rw [writeLetters]
    split
    · rfl
    · split
      · rw [ih _ _ hj', List.getElem?_set_ne hindex.symm]
      · split
        · exact ih _ _ hj'
        · rfl

theorem writeLetters_of_clash_eq_none (hstep : 0 < step) (index n : Nat)
    (hin : ∀ i < letters.length, index + i * step < grid.length)
    (hclash : (writeLetters step letters index n grid).2 = none) {i : Nat} {l : Char}
    (hl : letters[i]? = some l) :
    (writeLetters step letters index n grid).1[index + i * step]? = some l := by
  induction letters generalizing index n grid i with
  | nil => cases hl
  | cons letter rest ih =>
    have hindex : index < grid.length := by simpa using hin 0 (by simp)
    have hin' := forall_index_tail (P := (· < grid.length)) hin
    -- what comes behind never comes back to the first letter
    have hpast : ∀ k < rest.length, index ≠ index + step + k * step := by
      intro k _
      omega
    have hzero : index + 0 * step = index := by simp
    rw [writeLetters, List.getElem?_eq_getElem hindex] at hclash ⊢
    dsimp only at hclash ⊢
    split at hclash
    · next hblank =>
      rw [if_pos hblank]
      cases i with
      | zero =>
        cases hl
        rw [hzero, writeLetters_of_ne _ _ _ hpast, List.getElem?_set_self hindex]
      | succ i =>
        rw [index_succ]
        exact ih _ _ (by simpa using hin') hclash (by simpa using hl)
    · next hblank =>
      rw [if_neg hblank]
      split at hclash
      · next hsame =>
        rw [if_pos hsame]
        cases i with
        | zero =>
          cases hl
          rw [hzero, writeLetters_of_ne _ _ _ hpast, List.getElem?_eq_getElem hindex, hsame]
        | succ i =>
          rw [index_succ]
          exact ih _ _ hin' hclash (by simpa using hl)
      · cases hclash

end Letters

-- The grid has the letters of the clues, and is blank wherever no clue runs.
structure Shows (side : Nat) (es : List Entry) (grid : List Char) : Prop where
  length : grid.length = side * side
  letter : ∀ e ∈ es, ∀ c l, e.Puts c l → grid[c.flatIndex side]? = some l
  blank : ∀ c, c.Within side → (∀ e ∈ es, ∀ l, ¬ e.Puts c l) →
    grid[c.flatIndex side]? = some blankCell

namespace Shows

variable {side : Nat} {es : List Entry} {e : Entry} {grid : List Char}

theorem nil (side : Nat) : Shows side [] (List.replicate (side * side) blankCell) where
  length := List.length_replicate
  letter := by simp
  blank c hc _ := by
    rw [List.getElem?_replicate, if_pos (Coord.flatIndex_lt hc)]

-- What clues show is decided by what they put where.
theorem unique {other : List Entry} {grid' : List Char} (hg : Shows side es grid)
    (hg' : Shows side other grid')
    (hputs : ∀ c l, (∃ e ∈ es, e.Puts c l) ↔ ∃ e ∈ other, e.Puts c l) : grid = grid' := by
  apply List.ext_getElem?
  intro i
  by_cases hi : i < side * side
  · rw [← @Coord.flatIndex_ofIndex side i]
    have hwithin := Coord.within_ofIndex hi
    generalize Coord.ofIndex side i = c at hwithin
    by_cases hput : ∃ l, ∃ e ∈ es, e.Puts c l
    · obtain ⟨l, hput⟩ := hput
      obtain ⟨f, hf, hfput⟩ := (hputs c l).mp hput
      obtain ⟨e, he, heput⟩ := hput
      rw [hg.letter e he c l heput, hg'.letter f hf c l hfput]
    · have hnone : ∀ e ∈ es, ∀ l, ¬ e.Puts c l := fun e he l h => hput ⟨l, e, he, h⟩
      have hnone' : ∀ e ∈ other, ∀ l, ¬ e.Puts c l :=
        fun e he l h => hput ⟨l, (hputs c l).mpr ⟨e, he, h⟩⟩
      rw [hg.blank c hwithin hnone, hg'.blank c hwithin hnone']
  · rw [List.getElem?_eq_none (by have := hg.length; omega),
      List.getElem?_eq_none (by have := hg'.length; omega)]

theorem puts_of_ne_blank (hg : Shows side es grid) {c : Coord} {l : Char} (hc : c.Within side)
    (hl : grid[c.flatIndex side]? = some l) (hne : l ≠ blankCell) : ∃ e ∈ es, e.Puts c l := by
  by_cases hput : ∃ e ∈ es, ∃ m, e.Puts c m
  · obtain ⟨e, he, m, hm⟩ := hput
    rw [hg.letter e he c m hm, Option.some.injEq] at hl
    exact ⟨e, he, hl ▸ hm⟩
  · have hnone : ∀ e ∈ es, ∀ m, ¬ e.Puts c m := fun e he m h => hput ⟨e, he, m, h⟩
    rw [hg.blank c hc hnone, Option.some.injEq] at hl
    exact absurd hl.symm hne

end Shows

namespace Entry

variable {side : Nat} {es : List Entry} {e : Entry} {grid : List Char}

-- The grid that is left when the answer has been written from its first cell on.
def write (side : Nat) (e : Entry) (grid : List Char) : List Char × Option Nat :=
  writeLetters (e.direction.step side) e.letters (e.position.flatIndex side) 1 grid

theorem Sound.flatIndex_lt (h : e.Sound side) {i : Nat} (hi : i < e.letters.length) :
    e.position.flatIndex side + i * e.direction.step side < side * side := by
  have hput : e.Puts (e.position.move e.direction i) e.letters[i] :=
    ⟨i, rfl, List.getElem?_eq_getElem hi⟩
  rw [← Coord.flatIndex_move h.within]
  exact Coord.flatIndex_lt (h.within_of_puts hput)

theorem Sound.forall_index_lt (h : e.Sound side) (hg : Shows side es grid) :
    ∀ i < e.letters.length,
      e.position.flatIndex side + i * e.direction.step side < grid.length := by
  intro i hi
  rw [hg.length]
  exact h.flatIndex_lt hi

theorem Sound.step_pos (h : e.Sound side) : 0 < e.direction.step side := by
  obtain ⟨hx, hx', -, -⟩ := h.within
  cases e.direction with
  | across => exact Nat.one_pos
  | down => exact Nat.lt_of_lt_of_le hx hx'

-- An answer can be written exactly if it agrees with every clue that the grid shows.
theorem Sound.write_clash_iff (h : e.Sound side) (hg : Shows side es grid)
    (hblank : ∀ f ∈ es, ∀ l ∈ f.letters, l ≠ blankCell) :
    (e.write side grid).2 = none ↔ ∀ f ∈ es, ∀ c l m, f.Puts c l → e.Puts c m → l = m := by
  rw [write, writeLetters_clash_iff h.step_pos _ _ (h.forall_index_lt hg)]
  constructor
  · intro hfree f hf c l m hl hm
    have hcell := hg.letter f hf c l hl
    obtain ⟨j, -, hj⟩ := hl
    obtain ⟨i, rfl, hi⟩ := hm
    rw [Coord.flatIndex_move h.within] at hcell
    rcases hfree i m l hi hcell with hl | hl
    · exact absurd hl (hblank f hf l (List.mem_of_getElem? hj))
    · exact hl
  · intro hagree i l cell hl hcell
    by_cases hne : cell = blankCell
    · exact .inl hne
    · have hput : e.Puts (e.position.move e.direction i) l := ⟨i, rfl, hl⟩
      rw [← Coord.flatIndex_move h.within] at hcell
      obtain ⟨f, hf, hfput⟩ := hg.puts_of_ne_blank (h.within_of_puts hput) hcell hne
      exact .inr (hagree f hf _ _ _ hfput hput)

theorem Sound.shows_write (h : e.Sound side) (hg : Shows side es grid)
    (hes : ∀ f ∈ es, f.Sound side) (hclash : (e.write side grid).2 = none)
    (hagree : ∀ f ∈ es, ∀ c l m, f.Puts c l → e.Puts c m → l = m) :
    Shows side (es ++ [e]) (e.write side grid).1 := by
  have hself : ∀ c l, e.Puts c l → (e.write side grid).1[c.flatIndex side]? = some l := by
    rintro c l ⟨i, rfl, hl⟩
    rw [Coord.flatIndex_move h.within]
    exact writeLetters_of_clash_eq_none h.step_pos _ _ (h.forall_index_lt hg) hclash hl
  have hother : ∀ c, c.Within side → (∀ m, ¬ e.Puts c m) →
      (e.write side grid).1[c.flatIndex side]? = grid[c.flatIndex side]? := by
    intro c hc hnone
    apply writeLetters_of_ne
    intro i hi heq
    have hput : e.Puts (e.position.move e.direction i) e.letters[i] :=
      ⟨i, rfl, List.getElem?_eq_getElem hi⟩
    rw [← Coord.flatIndex_move h.within] at heq
    obtain rfl := Coord.flatIndex_inj hc (h.within_of_puts hput) heq
    exact hnone _ hput
  refine ⟨by simp [write, hg.length], ?_, ?_⟩
  · intro f hf c l hl
    rcases List.mem_append.mp hf with hf | hf
    · by_cases hput : ∃ m, e.Puts c m
      · obtain ⟨m, hm⟩ := hput
        obtain rfl := hagree f hf c l m hl hm
        exact hself c l hm
      · rw [hother c ((hes f hf).within_of_puts hl) (fun m hm => hput ⟨m, hm⟩)]
        exact hg.letter f hf c l hl
    · obtain rfl := List.mem_singleton.mp hf
      exact hself c l hl
  · intro c hc hnone
    rw [hother c hc (hnone e (by simp))]
    exact hg.blank c hc fun f hf => hnone f (List.mem_append_left _ hf)

end Entry

end Cruciverb
