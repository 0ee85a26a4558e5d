import Cruciverb.Grid.Numbering
import Cruciverb.Proofs.Grid.Cells
import Mathlib.Data.List.Pairwise

namespace Cruciverb

namespace Cell

@[simp] theorem isBlock_block : isBlock .block = true := rfl

@[simp] theorem isBlock_open (letter : Option Char) : isBlock (.open letter) = false := rfl

@[simp] theorem letter?_block : letter? .block = none := rfl

@[simp] theorem letter?_open (letter : Option Char) :
    letter? (.open letter) = some (letter.getD Answer.star) := rfl

end Cell

-- The letters of a run of open cells, looked at one by one.
theorem getElem?_letters {cells : List Cell} {n : Nat} {l : Char} :
    ((cells.takeWhile fun cell => !cell.isBlock).filterMap Cell.letter?)[n]? = some l ↔
      (∀ m < n, ∃ cell, cells[m]? = some cell ∧ cell.isBlock = false) ∧
        cells[n]?.bind Cell.letter? = some l := by
  induction cells generalizing n with
  | nil => simp
  | cons cell cells ih =>
    cases cell with
    | block =>
      simp only [List.takeWhile_cons, Cell.isBlock_block, Bool.not_true, Bool.false_eq_true, if_false,
        List.filterMap_nil, List.getElem?_nil, reduceCtorEq, false_iff]
      rintro ⟨hopen, hl⟩
      cases n with
      | zero => cases hl
      | succ n =>
        obtain ⟨_, hcell, hblock⟩ := hopen 0 (Nat.succ_pos n)
        cases hcell
        cases hblock
    | «open» letter =>
      simp only [List.takeWhile_cons, Cell.isBlock_open, Bool.not_false, if_true,
        List.filterMap_cons, Cell.letter?_open]
      cases n with
      | zero => simp
      | succ n =>
        rw [List.getElem?_cons_succ, List.getElem?_cons_succ, ih]
        refine and_congr_left fun _ => ⟨fun h m hm => ?_, fun h m hm => h (m + 1) (by omega)⟩
        cases m with
        | zero => exact ⟨_, rfl, rfl⟩
        | succ m => exact h m (by omega)

namespace Shape

variable {s : Shape} {c : Coord} {d : Direction}

theorem within_of_open (h : s.isBlock c = false) : c.Within s.size := by
  by_contra hc
  rw [isBlock, cell, index?, if_neg hc] at h
  cases h

-- Beyond the table there are only blocks.
theorem cell_eq_block_or_mem (s : Shape) (c : Coord) : s.cell c = .block ∨ s.cell c ∈ s.cells := by
  rw [cell]
  cases s.index? c with
  | none => exact .inl rfl
  | some i =>
    by_cases hi : i < s.cells.size
    · exact .inr (by simp [Array.getD, hi])
    · exact .inl (by simp [Array.getD, hi])

theorem not_isBlock_of_starts (h : s.starts c d = true) : s.isBlock c = false := by
  simp only [starts, Bool.and_eq_true, Bool.not_eq_true'] at h
  exact h.1.1

theorem along_add_le_of_within {n : Nat} (h : (c.move d n).Within s.size) :
    c.along d + n ≤ s.size := by
  obtain ⟨-, hx, -, hy⟩ := h
  cases d with
  | across => exact hx
  | down => exact hy

theorem getElem?_ahead {n : Nat} (h : s.isBlock (c.move d n) = false) :
    (s.ahead c d)[n]? = some (s.cell (c.move d n)) := by
  have hle := along_add_le_of_within (within_of_open h)
  rw [ahead, List.getElem?_map, List.getElem?_range (by omega)]
  rfl

theorem eq_of_getElem?_ahead {n : Nat} {cell : Cell} (h : (s.ahead c d)[n]? = some cell) :
    cell = s.cell (c.move d n) := by
  rw [ahead, List.getElem?_map, Option.map_eq_some_iff] at h
  obtain ⟨m, hm, rfl⟩ := h
  obtain ⟨-, rfl⟩ := List.getElem?_eq_some_iff.mp hm
  rw [List.getElem_range]

theorem isBlock_eq_false_iff : s.isBlock c = false ↔ ∃ l, (s.cell c).letter? = some l := by
  rw [isBlock]
  cases s.cell c with
  | block => simp
  | «open» letter => simp

-- A slot has a letter wherever all cells up to it are open, and it is the letter of the cell.
theorem getElem?_scan {n : Nat} {l : Char} : (s.scan c d)[n]? = some l ↔
    (∀ m ≤ n, s.isBlock (c.move d m) = false) ∧ (s.cell (c.move d n)).letter? = some l := by
  rw [scan, getElem?_letters]
  constructor
  · rintro ⟨hopen, hl⟩
    obtain ⟨cell, hcell, hl⟩ := Option.bind_eq_some_iff.mp hl
    obtain rfl := eq_of_getElem?_ahead hcell
    refine ⟨fun m hm => ?_, hl⟩
    rcases Nat.lt_or_eq_of_le hm with hlt | rfl
    · obtain ⟨cell, hcell, hblock⟩ := hopen m hlt
      obtain rfl := eq_of_getElem?_ahead hcell
      exact hblock
    · exact isBlock_eq_false_iff.mpr ⟨l, hl⟩
  · rintro ⟨hopen, hl⟩
    refine ⟨fun m hm => ⟨_, getElem?_ahead (hopen m (by omega)), hopen m (by omega)⟩, ?_⟩
    rw [getElem?_ahead (hopen n (Nat.le_refl n))]
    exact hl

theorem length_scan_le (c : Coord) (d : Direction) :
    (s.scan c d).length ≤ s.size + 1 - c.along d := by
  calc (s.scan c d).length
      ≤ ((s.ahead c d).takeWhile fun cell => !cell.isBlock).length := List.length_filterMap_le _ _
    _ ≤ (s.ahead c d).length := (List.takeWhile_sublist _).length_le
    _ = s.size + 1 - c.along d := by rw [ahead, List.length_map, List.length_range]

theorem length_scan_le_size (h : s.starts c d = true) : (s.scan c d).length ≤ s.size := by
  obtain ⟨hx, -, hy, -⟩ := within_of_open (not_isBlock_of_starts h)
  have hle := s.length_scan_le c d
  cases d <;> simp only [Coord.along] at hle <;> omega

theorem scan_ne_nil (h : s.starts c d = true) : s.scan c d ≠ [] := by
  have hopen := not_isBlock_of_starts h
  obtain ⟨l, hl⟩ := isBlock_eq_false_iff.mp hopen
  have hfirst : (s.scan c d)[0]? = some l := by
    rw [getElem?_scan, Coord.move_zero]
    refine ⟨fun m hm => ?_, hl⟩
    rw [Nat.le_zero.mp hm, Coord.move_zero]
    exact hopen
  intro hnil
  rw [hnil] at hfirst
  cases hfirst

-- A cell that an answer runs through.
def InSlot (s : Shape) (c : Coord) : Prop :=
  ∃ b d n, s.starts b d = true ∧ (∀ m ≤ n, s.isBlock (b.move d m) = false) ∧ b.move d n = c

theorem InSlot.isBlock_eq_false (h : s.InSlot c) : s.isBlock c = false := by
  obtain ⟨b, d, n, -, hopen, rfl⟩ := h
  exact hopen n (Nat.le_refl n)

theorem get_startsAt (s : Shape) (c : Coord) (d : Direction) :
    (s.startsAt c).get d = if s.starts c d then some (s.scan c d) else none := by
  rw [startsAt, Both.get_of]

theorem mem_positions : c ∈ s.positions ↔ c.Within s.size := Coord.mem_cells

theorem pairwise_positions (s : Shape) : s.positions.Pairwise Coord.Before :=
  Coord.pairwise_cells s.size

theorem pairwise_startingCells (s : Shape) :
    s.startingCells.Pairwise fun a b => a.position.Before b.position := by
  rw [startingCells]
  exact List.Pairwise.filter _ (List.pairwise_map.mpr s.pairwise_positions)

theorem count_pos_iff {α : Type} (b : Starts α) : 0 < b.count ↔ ∃ d a, b.get d = some a := by
  obtain ⟨across, down⟩ := b
  constructor
  · intro h
    cases across with
    | some a => exact ⟨.across, a, rfl⟩
    | none =>
      cases down with
      | some a => exact ⟨.down, a, rfl⟩
      | none => cases h
  · rintro ⟨d, a, h⟩
    cases d with
    | across =>
      obtain rfl : across = some a := h
      exact Nat.lt_of_lt_of_le Nat.one_pos (Nat.le_add_right 1 _)
    | down =>
      obtain rfl : down = some a := h
      exact Nat.lt_of_lt_of_le Nat.one_pos (Nat.le_add_left 1 _)

theorem mem_startingCells {cell : NumberedCell} : cell ∈ s.startingCells ↔
    cell.starts = s.startsAt cell.position ∧ ∃ d, s.starts cell.position d = true := by
  have hcount : 0 < (s.startsAt cell.position).count ↔ ∃ d, s.starts cell.position d = true := by
    rw [count_pos_iff]
    simp [get_startsAt]
  simp only [startingCells, List.mem_filter, List.mem_map, decide_eq_true_eq]
  constructor
  · rintro ⟨⟨c, -, rfl⟩, h⟩
    exact ⟨rfl, hcount.mp h⟩
  · rintro ⟨heq, d, hd⟩
    refine ⟨⟨cell.position, mem_positions.mpr (within_of_open (not_isBlock_of_starts hd)), ?_⟩, ?_⟩
    · rw [← heq]
    · rw [heq]
      exact hcount.mpr ⟨d, hd⟩

end Shape

section Numbers

variable {α : Type}

theorem keys_numberFrom (n : Nat) (as : List α) :
    (numberFrom n as).map (·.1) = List.range' n as.length := by
  induction as generalizing n with
  | nil => rfl
  | cons a as ih => rw [numberFrom, List.map_cons, ih, List.length_cons, List.range'_succ]

theorem mem_of_mem_numberFrom {n : Nat} {as : List α} {e : Nat × α} (h : e ∈ numberFrom n as) :
    e.2 ∈ as := by
  induction as generalizing n with
  | nil => cases h
  | cons a as ih =>
    rcases List.mem_cons.mp h with rfl | h
    · exact List.mem_cons_self
    · exact List.mem_cons_of_mem _ (ih h)

theorem exists_mem_numberFrom {n : Nat} {as : List α} {a : α} (h : a ∈ as) :
    ∃ k, (k, a) ∈ numberFrom n as := by
  induction as generalizing n with
  | nil => cases h
  | cons b as ih =>
    rcases List.mem_cons.mp h with rfl | h
    · exact ⟨n, List.mem_cons_self⟩
    · obtain ⟨k, hk⟩ := @ih (n + 1) h
      exact ⟨k, List.mem_cons_of_mem _ hk⟩

-- What is in order stays in order by its numbers.
theorem rel_of_mem_numberFrom {r : α → α → Prop} {n : Nat} {as : List α} (has : as.Pairwise r)
    {e f : Nat × α} (he : e ∈ numberFrom n as) (hf : f ∈ numberFrom n as) (hlt : e.1 < f.1) :
    r e.2 f.2 := by
  induction as generalizing n with
  | nil => cases he
  | cons a as ih =>
    rw [List.pairwise_cons] at has
    rcases List.mem_cons.mp he with rfl | he
    · rcases List.mem_cons.mp hf with rfl | hf
      · exact absurd hlt (Nat.lt_irrefl n)
      · exact has.1 _ (mem_of_mem_numberFrom hf)
    · rcases List.mem_cons.mp hf with rfl | hf
      · have hle : n + 1 ≤ e.1 := lt_of_mem_numberFrom he
        have hlt : e.1 < n := hlt
        omega
      · exact ih has.2 he hf

end Numbers

namespace Shape

variable {s : Shape}

theorem starts_eq_of_mem_numbering {e : Nat × NumberedCell} (he : e ∈ s.numbering.entries) :
    e.2.starts = s.startsAt e.2.position :=
  (mem_startingCells.mp (mem_of_mem_numberFrom he)).1

theorem id_pos_of_mem_numbering {e : Nat × NumberedCell} (he : e ∈ s.numbering.entries) :
    1 ≤ e.1 := lt_of_mem_numberFrom he

theorem keys_numbering (s : Shape) : s.numbering.keys = List.range' 1 s.startingCells.length :=
  keys_numberFrom 1 s.startingCells

theorem get_starts_of_mem_numbering {e : Nat × NumberedCell} (he : e ∈ s.numbering.entries)
    {d : Direction} {letters : List Char} (h : e.2.starts.get d = some letters) :
    s.starts e.2.position d = true ∧ s.scan e.2.position d = letters := by
  rw [starts_eq_of_mem_numbering he, get_startsAt] at h
  split at h
  · next hstarts => exact ⟨hstarts, Option.some.inj h⟩
  · cases h

theorem mem_numbering_of_starts {c : Coord} {d : Direction} (h : s.starts c d = true) :
    ∃ k, (k, NumberedCell.mk c (s.startsAt c)) ∈ s.numbering.entries :=
  exists_mem_numberFrom (mem_startingCells.mpr ⟨rfl, d, h⟩)

theorem before_of_mem_numbering {e f : Nat × NumberedCell} (he : e ∈ s.numbering.entries)
    (hf : f ∈ s.numbering.entries) (hlt : e.1 < f.1) : e.2.position.Before f.2.position :=
  rel_of_mem_numberFrom s.pairwise_startingCells he hf hlt

section Full

-- A shape with all its cells, so few that a machine word counts them.
structure Full (s : Shape) : Prop where
  size_cells : s.cells.size = s.size * s.size
  small : s.size * s.size < Text.wordLimit

theorem Full.toList_cells (h : s.Full) : s.cells.toList = s.positions.map s.cell := by
  have hpositions : s.positions = (List.range (s.size * s.size)).map (Coord.ofIndex s.size) :=
    Coord.cells_eq s.size
  rw [hpositions, List.map_map]
  refine List.ext_getElem (by simp [h.size_cells]) fun i hi hi' => ?_
  have hlt : i < s.size * s.size := by simpa using hi'
  rw [List.getElem_map, List.getElem_range, Function.comp_apply, cell, index?,
    if_pos (Coord.within_ofIndex hlt), Coord.flatIndex_ofIndex]
  simp [Array.getD, h.size_cells, hlt]

-- The open cells, without a look at any place twice.
def openPositions (s : Shape) : List Coord :=
  ((s.positions.zip s.cells.toList).filter fun e => !e.2.isBlock).map (·.1)

theorem Full.openPositions_eq (h : s.Full) :
    s.openPositions = s.positions.filter fun c => !s.isBlock c := by
  rw [openPositions, h.toList_cells]
  induction s.positions with
  | nil => rfl
  | cons c cs ih =>
    rw [List.map_cons, List.zip_cons_cons, List.filter_cons, List.filter_cons, ← ih, isBlock]
    cases (s.cell c).isBlock <;> rfl

-- No slot begins at a block.
theorem Full.startingCells_eq (h : s.Full) : s.startingCells =
    (s.openPositions.map fun c => NumberedCell.mk c (s.startsAt c)).filter fun cell =>
      0 < cell.starts.count := by
  rw [h.openPositions_eq, startingCells, List.filter_map, List.filter_map, List.filter_filter]
  refine congrArg _ (List.filter_congr fun c _ => ?_)
  rw [Function.comp_apply, Bool.eq_iff_iff, Bool.and_eq_true, decide_eq_true_eq, iff_self_and,
    count_pos_iff]
  rintro ⟨d, slot, hslot⟩
  rw [get_startsAt] at hslot
  split at hslot
  · next hstarts => simp [not_isBlock_of_starts hstarts]
  · cases hslot

end Full

end Shape

end Cruciverb
