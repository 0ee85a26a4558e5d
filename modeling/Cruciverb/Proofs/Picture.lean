import Cruciverb.Picture
import Cruciverb.Proofs.Grid.Cells
import Cruciverb.Proofs.Text.Lines

namespace Cruciverb

section Tables

variable {α β : Type}

-- What a table has at a cell.
def entryAt (rows : List (List α)) (c : Coord) : Option α := rows[c.y - 1]?.bind (·[c.x - 1]?)

structure Square (side : Nat) (rows : List (List α)) : Prop where
  height : rows.length = side
  width : ∀ row ∈ rows, row.length = side

theorem Square.map {side : Nat} {rows : List (List α)} (h : Square side rows) (f : α → β) :
    Square side (rows.map (·.map f)) where
  height := by rw [List.length_map, h.height]
  width := by
    rw [List.forall_mem_map]
    intro row hrow
    rw [List.length_map, h.width row hrow]

theorem entryAt_map (f : α → β) (rows : List (List α)) (c : Coord) :
    entryAt (rows.map (·.map f)) c = (entryAt rows c).map f := by
  rw [entryAt, entryAt, List.getElem?_map]
  cases rows[c.y - 1]? with
  | none => rfl
  | some row => exact List.getElem?_map

variable {n : Nat} {cells : List α} {c : Coord}

-- The cells of a square make as many rows as there are columns.
theorem rowsOf_eq (h : cells.length = n * n) :
    rowsOf n cells = (List.range n).map fun y => (cells.drop (y * n)).take n := by
  rw [rowsOf, h]
  split
  · next hzero => rw [hzero, List.range_zero, List.map_nil]
  · next hpos =>
    have hcount : (n * n + n - 1) / n = n := by
      rw [Nat.add_sub_assoc (by omega), Nat.mul_add_div (by omega), Nat.div_eq_of_lt (by omega),
        Nat.add_zero]
    rw [hcount]

theorem square_rowsOf (h : cells.length = n * n) : Square n (rowsOf n cells) := by
  rw [rowsOf_eq h]
  refine ⟨by rw [List.length_map, List.length_range], ?_⟩
  rw [List.forall_mem_map]
  intro y hy
  have hrow : (y + 1) * n ≤ n * n := Nat.mul_le_mul_right n (List.mem_range.mp hy)
  rw [Nat.succ_mul] at hrow
  rw [List.length_take, List.length_drop, h]
  omega

theorem mem_of_mem_rowsOf {row : List α} (h : row ∈ rowsOf n cells) : ∀ a ∈ row, a ∈ cells := by
  rw [rowsOf] at h
  split at h
  · cases h
  · obtain ⟨y, -, rfl⟩ := List.mem_map.mp h
    intro a ha
    exact List.mem_of_mem_drop (List.mem_of_mem_take ha)

theorem entryAt_rowsOf (h : cells.length = n * n) (hc : c.Within n) :
    entryAt (rowsOf n cells) c = cells[c.flatIndex n]? := by
  obtain ⟨hx, hx', hy, hy'⟩ := hc
  rw [entryAt, rowsOf_eq h, List.getElem?_map, List.getElem?_range (by omega), Option.map_some,
    Option.bind_some, List.getElem?_take_of_lt (by omega), List.getElem?_drop, Coord.flatIndex,
    Nat.add_comm]

end Tables

namespace Spec

variable {side : Nat} {c : Coord}

theorem square_numberRows (side : Nat) (starts : Table Clue) :
    Square side (numberRows side starts) := by
  refine ⟨by rw [numberRows, List.length_map, List.length_range'], ?_⟩
  rw [numberRows, List.forall_mem_map]
  intro y _
  rw [List.length_map, List.length_range']

theorem entryAt_numberRows (starts : Table Clue) (hc : c.Within side) :
    entryAt (numberRows side starts) c = some (numberAt starts c) := by
  obtain ⟨hx, hx', hy, hy'⟩ := hc
  rw [entryAt, numberRows, List.getElem?_map, List.getElem?_range' (by omega), Option.map_some,
    Option.bind_some, List.getElem?_map, List.getElem?_range' (by omega), Option.map_some,
    show 1 + 1 * (c.x - 1) = c.x by omega, show 1 + 1 * (c.y - 1) = c.y by omega]

theorem flatten_numberRows (side : Nat) (starts : Table Clue) :
    (numberRows side starts).flatten = (Coord.cells side).map (numberAt starts) := by
  rw [numberRows, Coord.cells, List.map_flatMap, List.flatMap]
  simp only [List.map_map]
  rfl

end Spec

namespace Picture

open Cruciverb.Text

variable {side : Nat} {grid : List Char} {c : Coord}

theorem eq_of_mem_lines {line : List Char} (h : line ∈ lines side grid) :
    (∃ f ∈ [tens, units, fun _ => ' '], line = [' ', ' ', ' '] ++ (List.range' 1 side).map f) ∨
      ∃ y, ∃ cells ∈ rowsOf side grid, line = row y cells := by
  rcases List.mem_append.mp h with hruler | hrow
  · obtain ⟨f, hf, rfl⟩ := List.mem_map.mp hruler
    exact .inl ⟨f, hf, rfl⟩
  · rw [← List.map_uncurry_zip_eq_zipWith] at hrow
    obtain ⟨⟨y, cells⟩, hzip, rfl⟩ := List.mem_map.mp hrow
    exact .inr ⟨y, cells, (List.of_mem_zip hzip).2, rfl⟩

theorem square_lines (h : grid.length = side * side) : Square (side + 3) (lines side grid) := by
  obtain ⟨hheight, hwidth⟩ := square_rowsOf h
  constructor
  · rw [lines, List.length_append, List.length_zipWith, hheight, List.length_range', Nat.min_self,
      Nat.add_comm]
    rfl
  · intro line hline
    rcases eq_of_mem_lines hline with ⟨f, -, rfl⟩ | ⟨y, cells, hcells, rfl⟩
    · rw [List.length_append, List.length_map, List.length_range', Nat.add_comm]
      rfl
    · rw [row, List.length_append, List.length_map, hwidth cells hcells, Nat.add_comm]
      rfl

-- There are three lines above the grid, and three characters on its left.
theorem entryAt_lines (h : grid.length = side * side) (hc : c.Within side) :
    entryAt (lines side grid) ⟨c.x + 3, c.y + 3⟩ = (grid[c.flatIndex side]?).map cellChar := by
  have hrulers : (rulers side).length = 3 := rfl
  rw [← entryAt_rowsOf h hc, entryAt, entryAt]
  obtain ⟨hx, hx', hy, hy'⟩ := hc
  dsimp only
  rw [show c.y + 3 - 1 = 3 + (c.y - 1) by omega, show c.x + 3 - 1 = 3 + (c.x - 1) by omega, lines,
    List.getElem?_append_right (by omega), hrulers, Nat.add_sub_cancel_left, List.getElem?_zipWith,
    List.getElem?_range' (by omega)]
  cases (rowsOf side grid)[c.y - 1]? with
  | none => rfl
  | some cells =>
    dsimp only [Option.bind_some]
    rw [row, List.getElem?_append_right (Nat.le_add_right 3 _)]
    show (cells.map cellChar)[3 + (c.x - 1) - 3]? = _
    rw [Nat.add_sub_cancel_left, List.getElem?_map]

theorem isLineEnd_digitChar (n : Nat) : isLineEnd (Nat.digitChar n) = false := by
  have hcr : Nat.digitChar n ≠ '\r' := Nat.digitChar_ne '\r' (by decide)
  have hlf : Nat.digitChar n ≠ '\n' := Nat.digitChar_ne '\n' (by decide)
  simp [isLineEnd, hcr, hlf]

theorem isLineEnd_tens (n : Nat) : isLineEnd (tens n) = false := by
  rw [tens]
  split
  · rfl
  · exact isLineEnd_digitChar _

theorem isLineEnd_cellChar {l : Char} (h : isLineEnd l = false) : isLineEnd (cellChar l) = false := by
  rw [cellChar]
  split
  · rfl
  · exact h

theorem noLineEnd_lines (h : ∀ l ∈ grid, isLineEnd l = false) :
    ∀ line ∈ lines side grid, ∀ l ∈ line, isLineEnd l = false := by
  have hblank : isLineEnd ' ' = false := rfl
  intro line hline
  rcases eq_of_mem_lines hline with ⟨f, hf, rfl⟩ | ⟨y, cells, hcells, rfl⟩
  · have hmark : ∀ n, isLineEnd (f n) = false := by
      simp only [List.mem_cons, List.not_mem_nil, or_false] at hf
      rcases hf with rfl | rfl | rfl
      · exact isLineEnd_tens
      · exact fun n => isLineEnd_digitChar _
      · exact fun n => hblank
    rw [List.forall_mem_append, List.forall_mem_map]
    exact ⟨by simp [hblank], fun n _ => hmark n⟩
  · rw [row, List.forall_mem_append, List.forall_mem_map]
    refine ⟨by simp [hblank, isLineEnd_tens, units, isLineEnd_digitChar], fun l hl => ?_⟩
    exact isLineEnd_cellChar (h l (mem_of_mem_rowsOf hcells l hl))

end Picture

end Cruciverb
