import Cruciverb.Proofs.Grid.Access
import Cruciverb.Proofs.Import.ExportCells

namespace Cruciverb

open Cruciverb.Text Cruciverb.Xml

namespace Xml.Element

theorem number_lt {e : Element} {limit n : Nat} {name : String} (h : e.number limit name = .ok n) :
    n < limit := by
  rw [number] at h
  split at h
  · cases h
  · next value _ =>
    split at h
    · next hread =>
      cases h
      unfold readUnsigned? at hread
      split at hread
      · exact readNumeral?_lt hread
      · exact readNumeral?_lt hread
    · cases h

end Xml.Element

namespace Shape

variable {s : Shape} {size : Nat}

-- The first side with more cells than a machine word can count.
def sideLimit : Nat := 0x100000000

theorem area_lt_iff : size * size < wordLimit ↔ size < sideLimit := by
  have hsquare : sideLimit * sideLimit = wordLimit := by decide
  rw [← hsquare, Nat.mul_self_lt_mul_self_iff]

theorem size_set (s : Shape) (c : Coord) (cell : Cell) : (s.set c cell).size = s.size := by
  rw [Shape.set]
  split <;> rfl

theorem size_cells_set (s : Shape) (c : Coord) (cell : Cell) :
    (s.set c cell).cells.size = s.cells.size := by
  rw [Shape.set]
  split
  · rfl
  · exact Array.size_setIfInBounds

namespace Full

theorem set (h : s.Full) (c : Coord) (cell : Cell) : (s.set c cell).Full where
  size_cells := by rw [size_cells_set, size_set, h.size_cells]
  small := by rw [size_set]; exact h.small

-- Each cell of the grid has its place in the table.
theorem flatIndex_lt (h : s.Full) {c : Coord} (hc : c.Within s.size) :
    Machine.flatIndex s.size c = some (c.flatIndex s.size) ∧ c.flatIndex s.size < s.cells.size := by
  have hlt := Coord.flatIndex_lt hc
  exact ⟨Machine.flatIndex_eq hc (Nat.lt_trans hlt h.small), h.size_cells ▸ hlt⟩

theorem set?_eq (h : s.Full) (c : Coord) (cell : Cell) : s.set? c cell = some (s.set c cell) := by
  rw [set?]
  split
  · next hc =>
    obtain ⟨hindex, hlt⟩ := h.flatIndex_lt hc
    rw [hindex, Option.bind_some, if_pos hlt, Shape.set, index?, if_pos hc]
  · next hc => rw [Shape.set, index?, if_neg hc]

end Full

end Shape

namespace Import

open Shape (cellLimit sideLimit)

variable {grid cell : Element} {cells : List Element} {size : Nat} {t t' : CellTable} {c : Coord}

theorem cellPosition_ok_iff : cellPosition cell size = .ok c ↔
    cell.number wordLimit "x" = .ok c.x ∧ cell.number wordLimit "y" = .ok c.y ∧ c.Within size := by
  simp only [cellPosition, bind_ok_iff]
  constructor
  · rintro ⟨x, hx, y, hy, h⟩
    split at h
    · cases h
    · split at h
      · cases h
      · cases h
        exact ⟨hx, hy, by simp only [Coord.Within]; omega⟩
  · rintro ⟨hx, hy, hxpos, hxle, hypos, hyle⟩
    refine ⟨_, hx, _, hy, ?_⟩
    rw [if_neg (by omega), if_neg (by omega)]
    rfl

namespace CellTable

-- A table for all cells of a grid of the size.
structure Sized (size : Nat) (t : CellTable) : Prop where
  side : t.shape.size = size
  full : t.shape.Full

theorem sized_start (h : start size = .ok t) : t.Sized size := by
  obtain ⟨hfew, rfl⟩ := start_ok_iff.mp h
  exact ⟨rfl, Shape.full_of_open? (Shape.open?_eq_some_iff.mpr ⟨hfew, rfl⟩)⟩

theorem start_fault_iff {fault : Fault} : start size = .error (.fault fault) ↔
    fault = .overflow ∧ wordLimit ≤ size * size ∨
      fault = .tooLarge ∧ cellLimit ≤ size * size ∧ size * size < wordLimit := by
  have hlimit : cellLimit < wordLimit := by decide
  rw [start, Shape.open?_eq]
  rcases Nat.lt_or_ge (size * size) cellLimit with hfew | hmany
  · rw [if_pos hfew]
    simp only [reduceCtorEq, false_iff]
    omega
  · rw [if_neg (Nat.not_lt_of_le hmany)]
    dsimp only
    split
    · next hcount => simp [hcount, hmany, eq_comm]
    · next hcount => simp [hcount, Nat.le_of_not_lt hcount, eq_comm]

theorem Sized.put (ht : t.Sized size) (h : t.put size cell = .ok t') : t'.Sized size := by
  obtain ⟨c, number, -, -, rfl⟩ := put_inv h
  exact ⟨by rw [Shape.size_set, ht.side], ht.full.set c (cellContent cell)⟩

theorem Sized.put_ne_fault (ht : t.Sized size) {fault : Fault} :
    t.put size cell ≠ .error (.fault fault) := by
  rw [CellTable.put]
  cases cellPosition cell size with
  | error e => simp
  | ok c =>
    simp only [ht.full.set?_eq]
    cases cellNumber cell <;> simp

theorem Sized.putAll (ht : t.Sized size) (h : t.putAll size cells = .ok t') : t'.Sized size := by
  induction cells generalizing t with
  | nil =>
    cases h
    exact ht
  | cons cell cells ih =>
    rw [CellTable.putAll] at h
    split at h
    · cases h
    · next hput => exact ih (ht.put hput) h

theorem Sized.putAll_ne_fault (ht : t.Sized size) {fault : Fault} :
    t.putAll size cells ≠ .error (.fault fault) := by
  induction cells generalizing t with
  | nil => simp [CellTable.putAll]
  | cons cell cells ih =>
    rw [CellTable.putAll]
    split
    · next hput =>
      intro h
      cases h
      exact ht.put_ne_fault hput
    · next hput => exact ih (ht.put hput)

end CellTable

-- Once there is a place for each cell, no cell stops the machine.
theorem readGrid_fault_iff_start {fault : Fault} :
    readGrid grid size = .error (.fault fault) ↔ CellTable.start size = .error (.fault fault) := by
  rw [readGrid]
  cases hstart : CellTable.start size with
  | error failure => simp
  | ok t =>
    have ht := CellTable.sized_start hstart
    dsimp only
    cases hput : t.putAll size (grid.childrenNamed "cell") with
    | error failure =>
      simp only [reduceCtorEq, iff_false, Except.error.injEq]
      rintro rfl
      exact ht.putAll_ne_fault hput
    | ok t' =>
      dsimp only
      split <;> simp

-- Nothing but the number of cells keeps a grid from being read or refused.
theorem readGrid_fault_iff {fault : Fault} : readGrid grid size = .error (.fault fault) ↔
    fault = .overflow ∧ sideLimit ≤ size ∨
      fault = .tooLarge ∧ cellLimit ≤ size * size ∧ size < sideLimit := by
  rw [readGrid_fault_iff_start, CellTable.start_fault_iff, ← Shape.area_lt_iff, ← Nat.not_lt,
    Shape.area_lt_iff, Nat.not_lt]

-- A grid that is read through has all its cells, and so each look at one of them finds it.
theorem full_of_readGrid {s : Shape} {numbers : Table Coord}
    (h : readGrid grid size = .ok (s, numbers)) : s.size = size ∧ s.Full := by
  obtain ⟨t₀, t, hstart, hput, -, rfl, -⟩ := readGrid_ok_iff.mp h
  obtain ⟨hside, hfull⟩ := (CellTable.sized_start hstart).putAll hput
  exact ⟨hside, hfull⟩

theorem gridSize_lt (h : gridSize grid = .ok size) : size < wordLimit := by
  rw [gridSize] at h
  split at h
  · cases h
  · simp only [bind_ok_iff] at h
    obtain ⟨width, -, height, -, h⟩ := h
    split at h
    · cases h
    · exact Element.number_lt h

theorem gridSize_of_findSections {root : Element} {sections : Sections}
    (h : findSections root = .ok sections) : gridSize sections.grid = .ok sections.size := by
  rw [findSections] at h
  split at h
  · cases h
  · simp only [bind_ok_iff] at h
    obtain ⟨puzzle, -, metadata, -, crossword, -, grid, -, size, hsize, h⟩ := h
    split at h
    · cases h
    · cases h
      exact hsize

theorem fromCompilerExport_of_readGrid_error {settings : Settings} {text : String} {root : Element}
    {sections : Sections} {failure : Failure} (hread : Element.read text = .ok root)
    (hfound : findSections root = .ok sections)
    (h : readGrid sections.grid sections.size = .error failure) :
    fromCompilerExport settings text = .error failure := by
  simp only [fromCompilerExport, hread, hfound, h]

-- The grid of an export has all its cells if they can be counted and addressed, and then each of them is
-- found in the table, whatever has been put there before. Otherwise it is not read at all.
theorem readGrid_stays_within_table {root : Element} {sections : Sections}
    (h : findSections root = .ok sections) :
    sections.size < wordLimit ∧
      (∀ s, Shape.open? sections.size = some s ↔
        sections.size * sections.size < cellLimit ∧ s = Shape.ofSize sections.size) ∧
      (Shape.ofSize sections.size).cells.size = sections.size * sections.size ∧
      (∀ fault, readGrid sections.grid sections.size = .error (.fault fault) ↔
        fault = .overflow ∧ sideLimit ≤ sections.size ∨
          fault = .tooLarge ∧ cellLimit ≤ sections.size * sections.size ∧ sections.size < sideLimit) ∧
      (∀ t₀ before t, CellTable.start sections.size = .ok t₀ →
        t₀.putAll sections.size before = .ok t →
          t.shape.size = sections.size ∧ t.shape.cells.size = sections.size * sections.size ∧
          ∀ cell c, cellPosition cell sections.size = .ok c →
            Machine.flatIndex sections.size c = some (c.flatIndex sections.size) ∧
              c.flatIndex sections.size < t.shape.cells.size) ∧
      ∀ s numbers, readGrid sections.grid sections.size = .ok (s, numbers) →
        s.size = sections.size ∧ s.Full ∧ ∀ c, s.startsAt? c = some (s.startsAt c) := by
  refine ⟨gridSize_lt (gridSize_of_findSections h), fun s => Shape.open?_eq_some_iff,
    Array.size_replicate, fun fault => readGrid_fault_iff, ?put, ?read⟩
  case put =>
    intro t₀ before t hstart hput
    obtain ⟨hside, hfull⟩ := (CellTable.sized_start hstart).putAll hput
    refine ⟨hside, by rw [hfull.size_cells, hside], fun cell c hc => ?_⟩
    rw [← hside] at hc ⊢
    exact hfull.flatIndex_lt (cellPosition_ok_iff.mp hc).2.2
  case read =>
    intro s numbers hread
    obtain ⟨hsize, hfull⟩ := full_of_readGrid hread
    exact ⟨hsize, hfull, hfull.whole.startsAt?_eq⟩

-- An export that lists a single cell.
def cornerExport (side : String) : List Char :=
  "<crossword-compiler><rectangular-puzzle><metadata/><crossword><grid width=\"".toList ++
    (side.toList ++ ("\" height=\"".toList ++ (side.toList ++
      ("\"><cell x=\"1\" y=\"1\" solution=\"A\"/></grid><word/><clues/></crossword>".toList ++
        "</rectangular-puzzle></crossword-compiler>".toList))))

def sectionsOf? (cs : List Char) : Option Sections :=
  (Event.read? (protect cs)).bind fun events =>
  (Element.ofEvents events).toOption.bind fun root =>
  (findSections root).toOption

theorem exists_of_sectionsOf? {cs : List Char} {sections : Sections}
    (h : sectionsOf? cs = some sections) :
    ∃ root, Element.read (String.ofList cs) = .ok root ∧ findSections root = .ok sections := by
  obtain ⟨events, hevents, h⟩ := Option.bind_eq_some_iff.mp h
  obtain ⟨root, hroot, h⟩ := Option.bind_eq_some_iff.mp h
  refine ⟨root, ?_, ok_of_toOption h⟩
  rw [Element.read, String.toList_ofList, hevents]
  exact ok_of_toOption hroot

theorem readGrid_stays_within_table_cornerExport : ∃ root sections,
    Element.read (String.ofList (cornerExport "1")) = .ok root ∧ findSections root = .ok sections ∧
      (Shape.ofSize sections.size).cells.size = 1 ∧
      ∀ fault, readGrid sections.grid sections.size ≠ .error (.fault fault) := by
  obtain ⟨sections, hsections, hsize⟩ := Option.map_eq_some_iff.mp
    (by decide +kernel : (sectionsOf? (cornerExport "1")).map Sections.size = some 1)
  obtain ⟨root, hread, hfound⟩ := exists_of_sectionsOf? hsections
  obtain ⟨-, -, harea, hfault, -⟩ := readGrid_stays_within_table hfound
  refine ⟨root, sections, hread, hfound, by rw [harea, hsize], fun fault h => ?_⟩
  rw [hfault, hsize] at h
  have hside : 1 < sideLimit := by decide
  have hcells : 1 * 1 < cellLimit := by decide
  omega

-- So many rows that no word counts the cells.
theorem overflow_wideCornerExport : ∃ root sections,
    Element.read (String.ofList (cornerExport "4294967296")) = .ok root ∧
      findSections root = .ok sections ∧ sections.size = sideLimit ∧
      readGrid sections.grid sections.size = .error (.fault .overflow) ∧
      fromCompilerExport { pubdate := "2019/05/06" } (String.ofList (cornerExport "4294967296")) =
        .error (.fault .overflow) := by
  obtain ⟨sections, hsections, hsize⟩ := Option.map_eq_some_iff.mp
    (by decide +kernel : (sectionsOf? (cornerExport "4294967296")).map Sections.size = some sideLimit)
  obtain ⟨root, hread, hfound⟩ := exists_of_sectionsOf? hsections
  have hfault : readGrid sections.grid sections.size = .error (.fault .overflow) := by
    rw [readGrid_fault_iff, hsize]
    exact .inl ⟨rfl, by decide⟩
  exact ⟨root, sections, hread, hfound, hsize, hfault,
    fromCompilerExport_of_readGrid_error hread hfound hfault⟩

end Import

end Cruciverb
