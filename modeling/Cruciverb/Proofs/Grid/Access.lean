import Cruciverb.Grid.Access
import Cruciverb.Proofs.Grid.Runs
import Cruciverb.Proofs.Table

namespace Cruciverb.Shape

open Cruciverb.Text

variable {s : Shape} {c : Coord} {d : Direction}

-- The table has all cells.
def Whole (s : Shape) : Prop := ∀ c, c.Within s.size → ∃ cell, s.look? c = some cell

theorem look?_eq_some_cell {cell : Cell} (h : s.look? c = some cell) : s.look? c = some (s.cell c) := by
  by_cases hc : c.Within s.size
  · rw [look?, if_pos hc] at h
    obtain ⟨i, hi, hcell⟩ := Option.bind_eq_some_iff.mp h
    obtain ⟨rfl, -⟩ := Machine.flatIndex_eq_some hi
    have hlt := (Array.getElem?_eq_some_iff.mp hcell).1
    rw [look?, if_pos hc, hi, Option.bind_some, Shape.cell, index?, if_pos hc]
    simp [Array.getD, hlt]
  · rw [look?_of_not_within hc, Shape.cell, index?, if_neg hc]

theorem Whole.look?_eq (h : s.Whole) (c : Coord) : s.look? c = some (s.cell c) := by
  by_cases hc : c.Within s.size
  · obtain ⟨cell, hcell⟩ := h c hc
    exact look?_eq_some_cell hcell
  · exact look?_eq_some_cell (look?_of_not_within hc)

-- A table that has all cells is so small that no word runs over at its edges.
theorem Whole.size_lt (h : s.Whole) : s.size + 1 < wordLimit := by
  rcases Nat.eq_zero_or_pos s.size with hzero | hside
  · rw [hzero]
    decide
  · obtain ⟨cell, hlast⟩ := h ⟨s.size, s.size⟩ ⟨hside, Nat.le_refl _, hside, Nat.le_refl _⟩
    rw [look?, if_pos ⟨hside, Nat.le_refl _, hside, Nat.le_refl _⟩] at hlast
    obtain ⟨i, hi, -⟩ := Option.bind_eq_some_iff.mp hlast
    obtain ⟨rfl, hlt⟩ := Machine.flatIndex_eq_some hi
    rw [Coord.flatIndex] at hlt
    by_contra hmany
    have hword : 2 * 2 < wordLimit := by decide
    have hrows : (s.size - 1) * 2 ≤ (s.size - 1) * s.size := Nat.mul_le_mul_left _ (by omega)
    dsimp only at hlt
    omega

theorem Whole.next?_eq (h : s.Whole) (hc : c.Within s.size) : c.next? d = some (c.move d 1) := by
  have hsize := h.size_lt
  obtain ⟨-, hle⟩ := hc.along d
  cases d <;> simp only [Coord.along] at hle <;>
    rw [Coord.next?, Machine.add_eq (by omega)] <;> rfl

theorem scan_of_isBlock (h : s.isBlock c = true) : s.scan c d = [] := by
  rw [List.eq_nil_iff_forall_not_mem]
  intro l hl
  obtain ⟨n, hn⟩ := List.mem_iff_getElem?.mp hl
  have hopen := (getElem?_scan.mp hn).1 0 (Nat.zero_le n)
  rw [Coord.move_zero, h] at hopen
  cases hopen

theorem scan_of_open {letter : Option Char} (h : s.cell c = .open letter) :
    s.scan c d = letter.getD Answer.star :: s.scan (c.move d 1) d := by
  have hopen : s.isBlock c = false := by rw [isBlock, h, Cell.isBlock_open]
  refine List.ext_getElem?_iff.mpr fun n => Option.ext fun l => ?_
  rw [getElem?_scan]
  cases n with
  | zero =>
    simp [Coord.move_zero, h, hopen]
  | succ n =>
    rw [List.getElem?_cons_succ, getElem?_scan]
    simp only [Coord.move_move, Nat.add_comm 1]
    refine and_congr_left fun _ => ⟨fun hall m hm => hall (m + 1) (by omega), fun hall m hm => ?_⟩
    cases m with
    | zero => rwa [Coord.move_zero]
    | succ m => exact hall m (by omega)

theorem Whole.starts?_eq (h : s.Whole) (c : Coord) (d : Direction) :
    s.starts? c d = some (s.starts c d) := by
  rw [starts?, h.look?_eq, starts.eq_def]
  cases hcell : s.cell c with
  | block => rw [isBlock, hcell, Cell.isBlock_block, Bool.not_true, Bool.false_and, Bool.false_and]
  | «open» letter =>
    have hopen : s.isBlock c = false := by rw [isBlock, hcell, Cell.isBlock_open]
    dsimp only
    rw [h.next?_eq (within_of_open hopen), Option.bind_some, h.look?_eq, hopen, isBlock]
    cases s.cell (c.move d 1) with
    | block => rfl
    | «open» letter' =>
      dsimp only
      rw [h.look?_eq]
      cases d with
      | across => by_cases hx : c.x = 1 <;> simp [Coord.along, Coord.previous, isBlock, hx]
      | down => by_cases hy : c.y = 1 <;> simp [Coord.along, Coord.previous, isBlock, hy]

theorem Whole.scan?_eq (h : s.Whole) (c : Coord) (d : Direction) :
    s.scan? c d = some (s.scan c d) := by
  fun_induction scan? s c d with
  | case1 c hnone => rw [h.look?_eq] at hnone; cases hnone
  | case2 c hblock =>
    rw [h.look?_eq, Option.some.injEq] at hblock
    rw [scan_of_isBlock (by rw [isBlock, hblock, Cell.isBlock_block])]
  | case3 c letter hopen hnext => rw [h.next?_eq (within_of_look? hopen)] at hnext; cases hnext
  | case4 c letter hopen c' hnext ih =>
    rw [h.next?_eq (within_of_look? hopen), Option.some.injEq] at hnext
    rw [h.look?_eq, Option.some.injEq] at hopen
    rw [ih, scan_of_open hopen, hnext, Option.map_some]

theorem Whole.startsAt?_eq (h : s.Whole) (c : Coord) : s.startsAt? c = some (s.startsAt c) := by
  have hslot (d : Direction) : s.slot? c d = some ((s.startsAt c).get d) := by
    rw [slot?, h.starts?_eq, get_startsAt]
    cases s.starts c d with
    | false => rfl
    | true => rw [if_pos rfl, h.scan?_eq, Option.map_some]
  rw [startsAt?, hslot, hslot]
  rfl

section Numbering

-- The cells among some where a slot begins.
def startingAmong (s : Shape) (cs : List Coord) : List NumberedCell :=
  (cs.map fun c => NumberedCell.mk c (s.startsAt c)).filter fun cell => 0 < cell.starts.count

theorem startingAmong_cons (s : Shape) (c : Coord) (cs : List Coord) :
    s.startingAmong (c :: cs) = if 0 < (s.startsAt c).count then
      ⟨c, s.startsAt c⟩ :: s.startingAmong cs else s.startingAmong cs := by
  simp [startingAmong, List.filter_cons]

-- The cells from a place on.
def placesFrom (s : Shape) (i left : Nat) : List Coord :=
  (List.range' i left).map (Coord.ofIndex s.size)

theorem startingCells_eq_startingAmong (s : Shape) :
    s.startingCells = s.startingAmong (s.placesFrom 0 (s.size * s.size)) := by
  have hpositions : s.positions = s.placesFrom 0 (s.size * s.size) := by
    rw [placesFrom, ← List.range_eq_range']
    exact Coord.cells_eq s.size
  rw [startingCells, startingAmong, hpositions]

-- Each cell is numbered behind all numbers there are, as long as they do not run out.
theorem Whole.numberOn?_eq (h : s.Whole) (hside : 0 < s.size) {left i next : Nat}
    {t : Table NumberedCell} (hkeys : ∀ e ∈ t.entries, e.1 < next) (hnext : next < idLimit) :
    (s.numberOn? left (Coord.ofIndex s.size i) next t).map Table.entries =
      if next + (s.startingAmong (s.placesFrom i left)).length < idLimit then
        some (t.entries ++ numberFrom next (s.startingAmong (s.placesFrom i left)))
      else none := by
  induction left generalizing i next t with
  | zero =>
    have hnone : s.startingAmong (s.placesFrom i 0) = [] := rfl
    rw [hnone, numberOn?, if_pos (by simpa using hnext), numberFrom, List.append_nil, Option.map_some]
  | succ left ih =>
    have hplaces : s.placesFrom i (left + 1) = Coord.ofIndex s.size i :: s.placesFrom (i + 1) left := by
      rw [placesFrom, List.range'_succ, List.map_cons, placesFrom]
    rw [hplaces, startingAmong_cons, numberOn?, h.startsAt?_eq, ← Coord.ofIndex_succ hside]
    dsimp only
    split
    · have hlater : next + ((s.startingAmong (s.placesFrom (i + 1) left)).length + 1) =
          next + 1 + (s.startingAmong (s.placesFrom (i + 1) left)).length := by omega
      rw [List.length_cons, hlater, numberFrom]
      split
      · next hfits =>
        have hinsert := Table.entries_insert_of_lt hkeys
          ⟨Coord.ofIndex s.size i, s.startsAt (Coord.ofIndex s.size i)⟩
        have hkeys' : ∀ e ∈ (t.insert next
            ⟨Coord.ofIndex s.size i, s.startsAt (Coord.ofIndex s.size i)⟩).entries, e.1 < next + 1 := by
          rw [hinsert, List.forall_mem_append, List.forall_mem_singleton]
          exact ⟨fun e he => Nat.lt_succ_of_lt (hkeys e he), Nat.lt_succ_self next⟩
        rw [ih hkeys' hfits, hinsert, List.append_assoc, List.singleton_append]
      · rw [if_neg (by omega), Option.map_none]
    · exact ih hkeys hnext

theorem look?_of_startsAt? {starts : Starts (List Char)} (h : s.startsAt? c = some starts) :
    ∃ cell, s.look? c = some cell := by
  cases hlook : s.look? c with
  | none => simp [startsAt?, slot?, starts?, hlook] at h
  | some cell => exact ⟨cell, rfl⟩

-- What is numbered has been looked at, cell by cell.
theorem look?_of_numberOn? (hside : 0 < s.size) {left i next : Nat} {t t' : Table NumberedCell}
    (h : s.numberOn? left (Coord.ofIndex s.size i) next t = some t') {j : Nat} (hij : i ≤ j)
    (hj : j < i + left) : ∃ cell, s.look? (Coord.ofIndex s.size j) = some cell := by
  induction left generalizing i next t with
  | zero => omega
  | succ left ih =>
    rw [numberOn?, ← Coord.ofIndex_succ hside] at h
    split at h
    · cases h
    · next starts hstarts =>
      rcases Nat.eq_or_lt_of_le hij with rfl | hlt
      · exact look?_of_startsAt? hstarts
      · dsimp only at h
        split at h
        · split at h
          · exact ih h hlt (by omega)
          · cases h
        · exact ih h hlt (by omega)

theorem entries_numbering (s : Shape) : s.numbering.entries = numberFrom 1 s.startingCells := rfl

theorem numbering?_eq (s : Shape) :
    s.numbering? = s.numberOn? (s.size * s.size) (Coord.ofIndex s.size 0) 1 .empty := by
  rw [numbering?, Coord.ofIndex, Nat.zero_mod, Nat.zero_div]

theorem whole_of_numbering? {t : Table NumberedCell} (h : s.numbering? = some t) : s.Whole := by
  intro c hc
  obtain ⟨hpos, hle⟩ := hc.along .across
  rw [numbering?_eq] at h
  have hlook := look?_of_numberOn? (Nat.lt_of_lt_of_le hpos hle) h (Nat.zero_le (c.flatIndex s.size))
    (by rw [Nat.zero_add]; exact Coord.flatIndex_lt hc)
  rwa [Coord.ofIndex_flatIndex hc] at hlook

theorem Whole.numbering?_eq_if (h : s.Whole) : s.numbering? =
    if s.startingCells.length + 1 < idLimit then some s.numbering else none := by
  have hcells := s.startingCells_eq_startingAmong
  rcases Nat.eq_zero_or_pos s.size with hzero | hside
  · have hnone : s.startingCells = [] := by
      rw [hcells, hzero]
      rfl
    have hempty : s.numbering = .empty := Table.ext_entries (by rw [entries_numbering, hnone]; rfl)
    rw [numbering?, hzero, hnone, hempty, if_pos (by decide)]
    rfl
  · have hrun := @Whole.numberOn?_eq s h hside (s.size * s.size) 0 1 .empty
      (fun e he => by cases he) (by decide)
    rw [← numbering?_eq, ← hcells, Nat.add_comm 1] at hrun
    split at hrun
    · next hfew =>
      obtain ⟨t, ht, hentries⟩ := Option.map_eq_some_iff.mp hrun
      rw [if_pos hfew, ht]
      refine congrArg some (Table.ext_entries ?_)
      rw [hentries, entries_numbering]
      rfl
    · next hmany => rw [if_neg hmany, Option.map_eq_none_iff.mp hrun]

-- One missing cell is enough to stop the numbering, and but for that only the numbers can run out.
theorem numbering?_eq_some_iff {t : Table NumberedCell} : s.numbering? = some t ↔
    s.Whole ∧ s.startingCells.length + 1 < idLimit ∧ t = s.numbering := by
  constructor
  · intro h
    have hwhole := whole_of_numbering? h
    rw [hwhole.numbering?_eq_if] at h
    split at h
    · next hfew => exact ⟨hwhole, hfew, (Option.some.inj h).symm⟩
    · cases h
  · rintro ⟨hwhole, hfew, rfl⟩
    rw [hwhole.numbering?_eq_if, if_pos hfew]

end Numbering

theorem starts?_of_not_within (h : ¬ c.Within s.size) : s.starts? c d = some false := by
  rw [starts?, look?_of_not_within h]

theorem scan?_of_not_within (h : ¬ c.Within s.size) : s.scan? c d = some [] := by
  rw [scan?]
  split
  · next hnone => rw [look?_of_not_within h] at hnone; cases hnone
  · rfl
  · next hopen => exact absurd (within_of_look? hopen) h

theorem Full.whole (h : s.Full) : s.Whole := by
  intro c hc
  have hlt := Coord.flatIndex_lt hc
  rw [look?, if_pos hc, Machine.flatIndex_eq hc (Nat.lt_trans hlt h.small), Option.bind_some]
  exact ⟨_, Array.getElem?_eq_getElem (h.size_cells ▸ hlt)⟩

-- A grid is opened with all its cells or not at all.
theorem open?_eq_some_iff {size : Nat} :
    open? size = some s ↔ size * size < cellLimit ∧ s = ofSize size := by
  rw [open?_eq]
  split
  · next hfew => simp [hfew, eq_comm]
  · next hmany => simp [hmany]

theorem full_of_open? {size : Nat} (h : open? size = some s) : s.Full := by
  obtain ⟨hfew, rfl⟩ := open?_eq_some_iff.mp h
  have hlimit : cellLimit ≤ wordLimit := by decide
  exact ⟨by simp [ofSize], Nat.lt_of_lt_of_le hfew hlimit⟩

-- A grid is opened just if its cells can be counted and addressed, and then it has them all. A numbering
-- lists the maximal runs, and it is found just if no cell is missing and the numbers do not run out.
theorem numbering_lists_runs (s : Shape) :
    (∀ size, open? size = some s ↔ size * size < cellLimit ∧ s = ofSize size) ∧
      (∀ size, open? size = some s → s.size = size ∧ s.Whole) ∧
      (∀ t, s.numbering? = some t ↔
        s.Whole ∧ s.startingCells.length + 1 < idLimit ∧ t = s.numbering) ∧
      (∀ d, (slotsIn s.numbering d).Pairwise (fun a b => a.1.Before b.1) ∧
        (∀ slot, slot ∈ slotsIn s.numbering d ↔ s.MaximalRun d slot.1 slot.2) ∧
        ∀ c, s.isBlock c = false →
          (s.isBlock (c.move d 1) = false ∨ ∃ b : Coord, b.move d 1 = c ∧ s.isBlock b = false) →
          ∃! slot, slot ∈ slotsIn s.numbering d ∧ Through d slot c) ∧
      s.numbering.keys = List.range' 1 s.numbering.entries.length ∧
      (∀ e ∈ s.numbering.entries, ∃ d letters, e.2.starts.get d = some letters) ∧
      s.numbering.entries.Pairwise (fun e f => e.2.position.Before f.2.position) ∧
      ∀ c d, ¬ c.Within s.size → s.starts? c d = some false ∧ s.scan? c d = some [] := by
  refine ⟨fun size => open?_eq_some_iff, ?opened, fun t => numbering?_eq_some_iff,
    fun d => ⟨s.pairwise_slotsIn d, fun slot => mem_slotsIn_numbering, fun c => existsUnique_slot⟩,
    ?keys, ?starts, s.pairwise_entries_numbering,
    fun c d hc => ⟨starts?_of_not_within hc, scan?_of_not_within hc⟩⟩
  case opened =>
    intro size h
    refine ⟨?_, (full_of_open? h).whole⟩
    rw [(open?_eq_some_iff.mp h).2, ofSize]
  case keys =>
    have hlength := congrArg List.length s.keys_numbering
    rw [Table.keys, List.length_map, List.length_range'] at hlength
    rw [keys_numbering, hlength]
  case starts =>
    intro e he
    obtain ⟨hstarts, d, hd⟩ := mem_startingCells.mp (mem_of_mem_numberFrom he)
    exact ⟨d, _, by rw [hstarts, get_startsAt, if_pos hd]⟩

-- Words of two and three letters around a block, some letters of them unknown.
def smallShape : Shape :=
  ⟨3, #[.open (some 'C'), .open (some 'A'), .open (some 'T'),
    .open (some 'O'), .block, .open none,
    .block, .open (some 'E'), .open none]⟩

theorem numbering_lists_runs_smallShape :
    smallShape.numbering? = some smallShape.numbering ∧
      smallShape.numbering.keys = [1, 2, 3] ∧
      slotsIn smallShape.numbering .down = [(⟨1, 1⟩, "CO".toList), (⟨3, 1⟩, "T**".toList)] ∧
      smallShape.MaximalRun .down ⟨3, 1⟩ "T**".toList ∧
      (∃! slot, slot ∈ slotsIn smallShape.numbering .across ∧ Through .across slot ⟨3, 3⟩) ∧
      smallShape.starts? ⟨18446744073709551615, 1⟩ .across = some false := by
  have hwhole : smallShape.Whole := Full.whole ⟨rfl, by decide⟩
  obtain ⟨-, -, hfound, hslots, hkeys, -, -, houtside⟩ := numbering_lists_runs smallShape
  have hdown : slotsIn smallShape.numbering .down =
      [(⟨1, 1⟩, "CO".toList), (⟨3, 1⟩, "T**".toList)] := by decide +kernel
  have hlength : smallShape.numbering.entries.length = 3 := by decide +kernel
  refine ⟨(hfound _).mpr ⟨hwhole, by decide +kernel, rfl⟩, by rw [hkeys, hlength]; rfl, hdown, ?_, ?_, ?_⟩
  · exact ((hslots .down).2.1 (⟨3, 1⟩, "T**".toList)).mp (by rw [hdown]; decide)
  · exact (hslots .across).2.2 ⟨3, 3⟩ (by decide +kernel) (.inr ⟨⟨2, 3⟩, rfl, by decide +kernel⟩)
  · exact (houtside ⟨18446744073709551615, 1⟩ .across (by decide)).1

-- So many rows that no word counts the cells. Yet the first row would be a run of its own.
theorem not_opened_wideShape : open? 4294967296 = none ∧ 4294967296 < wordLimit := by decide

end Cruciverb.Shape
