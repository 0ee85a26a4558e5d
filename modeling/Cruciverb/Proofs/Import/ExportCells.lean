import Cruciverb.Import.CompilerExport
import Cruciverb.Proofs.Grid.Slot
import Cruciverb.Proofs.Text.Lines
import Std.Data.HashSet.Lemmas

namespace Cruciverb

open Cruciverb.Answer Cruciverb.Text Cruciverb.Xml

namespace Text

theorem isBlank_toUpper {c : Char} (h : isBlank c = false) : isBlank c.toUpper = false := by
  delta Char.toUpper
  split
  · next hlower =>
    -- a capital takes the place of a small letter, and none is blank
    have hval : c.val.toNat = c.toNat := rfl
    simp only [UInt32.le_iff_toNat_le, hval] at hlower
    have hsmall : 97 ≤ c.toNat ∧ c.toNat ≤ 122 := hlower
    have hcapital : (c.val + ('A'.val - 'a'.val)).toNat = c.toNat - 32 := by
      simp only [UInt32.toNat_add, hval, Char.reduceVal, UInt32.reduceSub, UInt32.reduceToNat]
      omega
    simp only [isBlank, Char.toNat, hcapital, Bool.or_eq_false_iff, Bool.and_eq_false_iff,
      decide_eq_false_iff_not, beq_eq_false_iff_ne]
    omega
  · exact h

end Text

-- A letter that can be seen.
def Cell.Inked (cell : Cell) : Prop := ∀ l, cell.letter? = some l → isBlank l = false

namespace Shape

variable {s : Shape} {cell : Cell} {c : Coord} {d : Direction}

def Inked (s : Shape) : Prop := ∀ cell ∈ s.cells, cell.Inked

theorem inked_open_none : (Cell.open none).Inked := by
  intro l hl
  cases hl
  decide

theorem inked_ofSize (size : Nat) : (ofSize size).Inked := by
  intro cell hcell
  rw [(Array.mem_replicate.mp hcell).2]
  exact inked_open_none

theorem Inked.set (h : s.Inked) (c : Coord) (hcell : cell.Inked) : (s.set c cell).Inked := by
  rw [Shape.set]
  split
  · exact h
  · intro other hother
    rcases Array.mem_or_eq_of_mem_setIfInBounds hother with hother | rfl
    · exact h other hother
    · exact hcell

theorem Inked.scan (h : s.Inked) : ∀ l ∈ s.scan c d, isBlank l = false := by
  intro l hl
  obtain ⟨cell, hcell, hl⟩ := List.mem_filterMap.mp hl
  obtain ⟨n, -, rfl⟩ := List.mem_map.mp ((List.takeWhile_sublist _).subset hcell)
  rcases s.cell_eq_block_or_mem (c.move d n) with hblock | hmem
  · rw [hblock] at hl
    cases hl
  · exact h _ hmem l hl

end Shape

namespace Import

theorem inked_cellContent (cell : Element) : (cellContent cell).Inked := by
  intro l hl
  rw [cellContent] at hl
  split at hl
  · cases hl
  · rw [Cell.letter?_open, Option.some.injEq] at hl
    cases hletter : (cell.attr? "solution").bind fun s => (trim s.toList).head? with
    | none =>
      rw [hletter] at hl
      cases hl
      decide
    | some c =>
      rw [hletter] at hl
      cases hl
      obtain ⟨solution, -, hc⟩ := Option.bind_eq_some_iff.mp hletter
      exact isBlank_toUpper ((trimmed_trim _).head c hc)

theorem ok_of_toOption {ε α : Type} {x : Except ε α} {a : α} (h : x.toOption = some a) : x = .ok a := by
  cases x with
  | error e => cases h
  | ok b => exact congrArg Except.ok (Option.some.inj h)

variable {grid : Element} {size : Nat} {t t' : CellTable}

-- All that one cell changes.
theorem CellTable.put_inv {cell : Element} (h : t.put size cell = .ok t') :
    ∃ c number, cellPosition cell size = .ok c ∧ cellNumber cell = .ok number ∧
      t' = ⟨t.shape.set c (cellContent cell), number.elim t.numbers (t.numbers.insert · c),
        t.seen.insert (c.x, c.y)⟩ := by
  unfold CellTable.put at h
  split at h
  · cases h
  · next c hc =>
    split at h
    · cases h
    · next shape hshape =>
      obtain rfl := Shape.set?_eq_some hshape
      split at h
      · cases h
      · next number hnumber =>
        cases h
        refine ⟨c, number, hc, hnumber, ?_⟩
        cases number <;> rfl

theorem CellTable.start_ok_iff {t : CellTable} : CellTable.start size = .ok t ↔
    size * size < Shape.cellLimit ∧ t = ⟨Shape.ofSize size, .empty, ∅⟩ := by
  rw [CellTable.start, Shape.open?_eq]
  by_cases h : size * size < Shape.cellLimit
  · simp [h, eq_comm]
  · simp [h]

theorem CellTable.inked_putAll {cells : List Element} (ht : t.shape.Inked)
    (h : t.putAll size cells = .ok t') : t'.shape.Inked := by
  induction cells generalizing t with
  | nil =>
    cases h
    exact ht
  | cons cell cells ih =>
    rw [putAll] at h
    split at h
    · cases h
    · next hput =>
      obtain ⟨c, number, -, -, rfl⟩ := put_inv hput
      exact ih (ht.set c (inked_cellContent cell)) h

theorem CellTable.contains_putAll {cells : List Element} (h : t.putAll size cells = .ok t')
    (c : Coord) : t'.seen.contains (c.x, c.y) = true ↔
      t.seen.contains (c.x, c.y) = true ∨ ∃ cell ∈ cells, cellPosition cell size = .ok c := by
  induction cells generalizing t with
  | nil =>
    cases h
    simp
  | cons cell cells ih =>
    rw [putAll] at h
    split at h
    · cases h
    · next hput =>
      obtain ⟨c', number, hc', -, rfl⟩ := put_inv hput
      have heq : (c'.x, c'.y) = (c.x, c.y) ↔ c' = c := by
        cases c
        cases c'
        simp
      rw [ih h, Std.HashSet.contains_insert, Bool.or_eq_true, beq_iff_eq, heq]
      simp only [List.mem_cons, or_and_right, exists_or, exists_eq_left, hc', Except.ok.injEq]
      rw [or_left_comm, or_assoc]

theorem firstUnseen?_eq_none_iff {seen : Std.HashSet (Nat × Nat)} (hsize : 0 < size) {left i : Nat} :
    firstUnseen? size seen left (Coord.ofIndex size i) = none ↔ ∀ j, i ≤ j → j < i + left →
      seen.contains ((Coord.ofIndex size j).x, (Coord.ofIndex size j).y) = true := by
  induction left generalizing i with
  | zero =>
    rw [firstUnseen?]
    simp only [true_iff]
    omega
  | succ left ih =>
    rw [firstUnseen?, ← Coord.ofIndex_succ hsize]
    constructor
    · intro h j hij hj
      split at h
      · next hseen =>
        rcases Nat.eq_or_lt_of_le hij with rfl | hlt
        · exact hseen
        · exact ih.mp h j hlt (by omega)
      · cases h
    · intro h
      rw [if_pos (h i (Nat.le_refl i) (by omega)), ih]
      exact fun j hij hj => h j (by omega) (by omega)

-- A place is left out just if no cell stands there.
theorem firstUnseen?_putAll {t₀ : CellTable} (hstart : CellTable.start size = .ok t₀)
    {cells : List Element} (hput : t₀.putAll size cells = .ok t) :
    firstUnseen? size t.seen (size * size) ⟨1, 1⟩ = none ↔
      ∀ c : Coord, c.Within size → ∃ cell ∈ cells, cellPosition cell size = .ok c := by
  have hempty (c : Coord) : t₀.seen.contains (c.x, c.y) = false := by
    obtain ⟨-, rfl⟩ := CellTable.start_ok_iff.mp hstart
    exact Std.HashSet.contains_empty
  have hseen (c : Coord) : t.seen.contains (c.x, c.y) = true ↔
      ∃ cell ∈ cells, cellPosition cell size = .ok c := by
    rw [CellTable.contains_putAll hput, hempty, Bool.false_eq_true, false_or]
  rcases Nat.eq_zero_or_pos size with rfl | hsize
  · have hnone (c : Coord) : ¬ c.Within 0 := fun h => by
      obtain ⟨hx, hx', -⟩ := h
      omega
    exact iff_of_true rfl fun c hc => absurd hc (hnone c)
  · have hfirst : (⟨1, 1⟩ : Coord) = Coord.ofIndex size 0 := by simp [Coord.ofIndex]
    rw [hfirst, firstUnseen?_eq_none_iff hsize]
    simp only [hseen]
    constructor
    · intro h c hc
      have hplace := h _ (Nat.zero_le _) (by rw [Nat.zero_add]; exact Coord.flatIndex_lt hc)
      rwa [Coord.ofIndex_flatIndex hc] at hplace
    · intro h j _ hj
      exact h _ (Coord.within_ofIndex (by rwa [Nat.zero_add] at hj))

-- A grid is read if all of its cells can be, and no place is left out.
theorem readGrid_ok_iff {s : Shape} {numbers : Table Coord} : readGrid grid size = .ok (s, numbers) ↔
    ∃ t₀ t, CellTable.start size = .ok t₀ ∧ t₀.putAll size (grid.childrenNamed "cell") = .ok t ∧
      (∀ c : Coord, c.Within size → ∃ cell ∈ grid.childrenNamed "cell",
        cellPosition cell size = .ok c) ∧ t.shape = s ∧ t.numbers = numbers := by
  rw [readGrid]
  constructor
  · intro h
    split at h
    · cases h
    · next t₀ hstart =>
      split at h
      · cases h
      · next t hput =>
        split at h
        · cases h
        · next hnone =>
          cases h
          exact ⟨t₀, t, hstart, hput, (firstUnseen?_putAll hstart hput).mp hnone, rfl, rfl⟩
  · rintro ⟨t₀, t, hstart, hput, hplaces, rfl, rfl⟩
    have hnone := (firstUnseen?_putAll hstart hput).mpr hplaces
    simp only [hstart, hput, hnone]

theorem inked_readGrid {s : Shape} {numbers : Table Coord} (h : readGrid grid size = .ok (s, numbers)) :
    s.Inked := by
  obtain ⟨t₀, t, hstart, hput, -, rfl, -⟩ := readGrid_ok_iff.mp h
  refine CellTable.inked_putAll ?_ hput
  obtain ⟨-, rfl⟩ := CellTable.start_ok_iff.mp hstart
  exact Shape.inked_ofSize size

end Import

end Cruciverb
