import Cruciverb.Grid.Template
import Cruciverb.Proofs.Grid.Runs
import Cruciverb.Proofs.Table

namespace Cruciverb

namespace Shape

-- The shape that is drawn in lines of characters.
def ofLines (lines : List (List Char)) : Shape :=
  ⟨lines.length, (lines.flatMap fun line =>
    line.map fun c => if c = '#' then Cell.block else Cell.open none).toArray⟩

theorem ofRows?_ofList {lines : List (List Char)} (h : ∀ line ∈ lines, line.length = lines.length) :
    ofRows? (lines.map String.ofList) = some (ofLines lines) := by
  have hsquare : (lines.map String.ofList).all
      (fun row => row.toList.length == (lines.map String.ofList).length) = true := by
    simpa using h
  rw [ofRows?, if_pos hsquare]
  simp only [ofLines, List.length_map, List.flatMap_map, String.toList_ofList]

theorem full_ofLines {lines : List (List Char)} (h : ∀ line ∈ lines, line.length = lines.length)
    (hsmall : lines.length * lines.length < Text.wordLimit) : (ofLines lines).Full where
  size_cells := by
    have hlengths : lines.map List.length = List.replicate lines.length lines.length := by
      rw [List.eq_replicate_iff, List.length_map, List.forall_mem_map]
      exact ⟨rfl, h⟩
    simp [ofLines, List.length_flatMap, hlengths]
  small := hsmall

end Shape

namespace Template

variable {t : Template} {s : Shape} {d : Direction}

theorem size_of_shape? (h : t.shape? = some s) : s.size = t.size := by
  rw [shape?, Shape.ofRows?] at h
  split at h
  · cases h
    rfl
  · cases h

theorem numbering_of_shape? (h : t.shape? = some s) : t.numbering = s.numbering := by
  rw [numbering, h]

-- The numbers of a template are those of the open cells in its lines.
theorem numbering_of_lines {lines : List (List Char)} {cells : List NumberedCell}
    (hrows : t.rows = lines.map String.ofList) (hsquare : ∀ line ∈ lines, line.length = lines.length)
    (hsmall : lines.length * lines.length < Text.wordLimit)
    (hcells : (((Shape.ofLines lines).openPositions.map fun c =>
      NumberedCell.mk c ((Shape.ofLines lines).startsAt c)).filter fun cell =>
        0 < cell.starts.count) = cells) :
    t.numbering = ⟨numberFrom 1 cells, ascending_numberFrom 1 cells⟩ := by
  have hs : t.shape? = some (Shape.ofLines lines) := by
    rw [shape?, hrows, Shape.ofRows?_ofList hsquare]
  rw [numbering_of_shape? hs]
  subst hcells
  exact Table.ext_entries (congrArg (numberFrom 1) (Shape.full_ofLines hsquare hsmall).startingCells_eq)

-- What is numbered is a square of cells.
theorem exists_shape?_of_get? {id : Nat} {cell : NumberedCell} (h : t.numbering.get? id = some cell) :
    ∃ s, t.shape? = some s ∧ (id, cell) ∈ s.numbering.entries := by
  cases hs : t.shape? with
  | none =>
    rw [numbering, hs] at h
    cases h
  | some s => exact ⟨s, rfl, Table.mem_entries_iff.mpr (numbering_of_shape? hs ▸ h)⟩

theorem cell_of_shape? (h : t.shape? = some s) (c : Coord) : s.cell c = .block ∨ s.cell c = .open none := by
  rcases s.cell_eq_block_or_mem c with hblock | hmem
  · exact .inl hblock
  · rw [shape?, Shape.ofRows?] at h
    split at h
    · cases h
      simp only [List.mem_toArray, List.mem_flatMap, List.mem_map] at hmem
      obtain ⟨row, -, char, -, heq⟩ := hmem
      rw [← heq]
      split
      · exact .inl rfl
      · exact .inr rfl
    · cases h

theorem slot_eq_replicate (h : t.shape? = some s) (c : Coord) (d : Direction) :
    s.scan c d = List.replicate (s.scan c d).length Answer.star := by
  rw [List.eq_replicate_iff]
  refine ⟨rfl, fun l hl => ?_⟩
  obtain ⟨n, hn⟩ := List.mem_iff_getElem?.mp hl
  obtain ⟨-, hletter⟩ := Shape.getElem?_scan.mp hn
  rcases cell_of_shape? h (c.move d n) with hcell | hcell
  · rw [hcell] at hletter
    cases hletter
  · rw [hcell] at hletter
    exact (Option.some.inj hletter).symm

theorem mem_ids {id : Nat} : id ∈ t.ids d ↔
    ∃ cell slot, t.numbering.get? id = some cell ∧ cell.starts.get d = some slot := by
  simp only [ids, List.mem_map, List.mem_filter, Option.isSome_iff_exists]
  constructor
  · rintro ⟨⟨k, cell⟩, ⟨he, slot, hslot⟩, rfl⟩
    exact ⟨cell, slot, Table.mem_entries_iff.mp he, hslot⟩
  · rintro ⟨cell, slot, hcell, hslot⟩
    exact ⟨(id, cell), ⟨Table.mem_entries_iff.mpr hcell, slot, hslot⟩, rfl⟩

theorem ids_of_findByAcross? {library : List Template} {ids : List Nat}
    (h : findByAcross? library ids = some t) : t.ids .across = ids :=
  beq_iff_eq.mp (List.find?_some (p := fun t : Template => t.ids .across == ids) h)

theorem pairwise_ids (t : Template) (d : Direction) : (t.ids d).Pairwise (· < ·) := by
  rw [ids, List.pairwise_map]
  exact List.Pairwise.filter _ t.numbering.ascending

end Template

end Cruciverb
