import Cruciverb.Proofs.Grid.Slot
import Cruciverb.Proofs.Puzzle.Outcome

namespace Cruciverb

open Cruciverb.Answer

-- The clue of a slot: its number, its place and its letters.
structure Clue.Tells (c : Clue) (d : Direction) (e : Nat × NumberedCell) : Prop where
  id : c.id = e.1
  position : c.position = e.2.position
  letters : e.2.starts.get d = some (lettersOf c.answer.toList)
  words : ∀ w ∈ wordsOf c.answer.toList, w ≠ []

namespace Puzzle

structure Draws (p : Puzzle) (s : Shape) (clue? : Direction → Nat × NumberedCell → Option Clue) :
    Prop where
  side : p.dimensions.side = s.size
  clues : ∀ d, p.clues.get d = s.numbering.entries.filterMap (clue? d)
  tells : ∀ d, ∀ e ∈ s.numbering.entries, ∀ c, clue? d e = some c → c.Tells d e
  told : ∀ d, ∀ e ∈ s.numbering.entries, ∀ letters, e.2.starts.get d = some letters →
    ∃ c, clue? d e = some c

namespace Draws

variable {p q : Puzzle} {s : Shape} {clue? : Direction → Nat × NumberedCell → Option Clue}

theorem exists_of_mem (h : p.Draws s clue?) {x : Entry} (hx : x ∈ p.entries) :
    ∃ e ∈ s.numbering.entries, clue? x.direction e = some x.clue ∧ x.clue.Tells x.direction e := by
  rw [mem_entries, h.clues, List.mem_filterMap] at hx
  obtain ⟨e, he, hclue⟩ := hx
  exact ⟨e, he, hclue, h.tells _ e he _ hclue⟩

theorem exists_entry (h : p.Draws s clue?) {e : Nat × NumberedCell} (he : e ∈ s.numbering.entries)
    {d : Direction} {letters : List Char} (hd : e.2.starts.get d = some letters) :
    ∃ c, (⟨d, c⟩ : Entry) ∈ p.entries ∧ c.Tells d e := by
  obtain ⟨c, hc⟩ := h.told d e he letters hd
  refine ⟨c, ?_, h.tells d e he c hc⟩
  rw [mem_entries, h.clues, List.mem_filterMap]
  exact ⟨e, he, hc⟩

-- What a clue puts into a cell is the letter that the grid has there.
theorem letter_eq (h : p.Draws s clue?) {x : Entry} (hx : x ∈ p.entries) {c : Coord} {l : Char}
    (hl : x.Puts c l) : (s.cell c).letter? = some l ∧ s.InSlot c := by
  obtain ⟨e, he, -, ht⟩ := h.exists_of_mem hx
  obtain ⟨hstarts, hscan⟩ := Shape.get_starts_of_mem_numbering he ht.letters
  obtain ⟨n, rfl, hn⟩ := hl
  have hletters : x.letters = s.scan e.2.position x.direction := hscan.symm
  have hposition : x.position = e.2.position := ht.position
  rw [hletters, Shape.getElem?_scan] at hn
  rw [hposition]
  exact ⟨hn.2, e.2.position, x.direction, n, hstarts, hn.1, rfl⟩

theorem puts_of_inSlot (h : p.Draws s clue?) {c : Coord} (hc : s.InSlot c) :
    ∃ x ∈ p.entries, ∃ l, x.Puts c l := by
  obtain ⟨b, d, n, hstarts, hopen, rfl⟩ := hc
  obtain ⟨k, hk⟩ := Shape.mem_numbering_of_starts hstarts
  have hslot : (s.startsAt b).get d = some (s.scan b d) := by rw [Shape.get_startsAt, if_pos hstarts]
  obtain ⟨clue, hx, ht⟩ := h.exists_entry hk hslot
  obtain ⟨l, hl⟩ := Shape.isBlock_eq_false_iff.mp (hopen n (Nat.le_refl n))
  have hletters : lettersOf clue.answer.toList = s.scan b d := by
    have := ht.letters
    rw [hslot] at this
    exact (Option.some.inj this).symm
  refine ⟨⟨d, clue⟩, hx, l, n, ?_, ?_⟩
  · show clue.position.move d n = _
    rw [ht.position]
  · show (lettersOf clue.answer.toList)[n]? = some l
    rw [hletters, Shape.getElem?_scan]
    exact ⟨hopen, hl⟩

theorem exists_puts_iff (h : p.Draws s clue?) (c : Coord) :
    (∃ x ∈ p.entries, ∃ l, x.Puts c l) ↔ s.InSlot c :=
  ⟨fun ⟨_, hx, _, hl⟩ => (h.letter_eq hx hl).2, h.puts_of_inSlot⟩

-- The clues are numbered as the cells are where they start.
theorem exists_id_iff (h : p.Draws s clue?) (k : Nat) (c : Coord) :
    (∃ x ∈ p.entries, x.id = k ∧ x.position = c) ↔
      ∃ cell, (k, cell) ∈ s.numbering.entries ∧ cell.position = c := by
  constructor
  · rintro ⟨x, hx, rfl, rfl⟩
    obtain ⟨⟨k, cell⟩, he, -, ht⟩ := h.exists_of_mem hx
    obtain rfl : x.id = k := ht.id
    exact ⟨cell, he, ht.position.symm⟩
  · rintro ⟨cell, he, rfl⟩
    obtain ⟨hcell, d, hd⟩ := Shape.mem_startingCells.mp (mem_of_mem_numberFrom he)
    have hslot : cell.starts.get d = some (s.scan cell.position d) := by
      rw [hcell, Shape.get_startsAt, if_pos hd]
    obtain ⟨clue, hx, ht⟩ := h.exists_entry he hslot
    exact ⟨_, hx, ht.id, ht.position⟩

theorem sound (h : p.Draws s clue?) {x : Entry} (hx : x ∈ p.entries) :
    x.Sound p.dimensions.side := by
  obtain ⟨e, he, -, ht⟩ := h.exists_of_mem hx
  obtain ⟨hstarts, hscan⟩ := Shape.get_starts_of_mem_numbering he ht.letters
  have hwithin := Shape.within_of_open (Shape.not_isBlock_of_starts hstarts)
  have hletters : x.letters = s.scan e.2.position x.direction := hscan.symm
  have hposition : x.position = e.2.position := ht.position
  have hlength := Shape.length_scan_le (s := s) e.2.position x.direction
  have halong : 1 ≤ e.2.position.along x.direction ∧ e.2.position.along x.direction ≤ s.size := by
    obtain ⟨hx, hx', hy, hy'⟩ := hwithin
    cases x.direction with
    | across => exact ⟨hx, hx'⟩
    | down => exact ⟨hy, hy'⟩
  refine ⟨?_, ?_, ht.words, ?_, ?_⟩
  · exact Nat.lt_of_lt_of_eq (Shape.id_pos_of_mem_numbering he) ht.id.symm
  · rw [hposition, h.side]
    exact hwithin
  · rw [hletters, h.side]
    omega
  · rw [hletters, hposition, h.side]
    omega

theorem mem_ids_iff (h : p.Draws s clue?) (k : Nat) :
    k ∈ p.ids ↔ 1 ≤ k ∧ k ≤ s.startingCells.length := by
  have hkeys : k ∈ s.numbering.keys ↔ 1 ≤ k ∧ k ≤ s.startingCells.length := by
    rw [Shape.keys_numbering, List.mem_range'_1]
    omega
  rw [← hkeys, ids, Table.keys, List.mem_map, List.mem_map]
  constructor
  · rintro ⟨x, hx, rfl⟩
    obtain ⟨e, he, -, ht⟩ := h.exists_of_mem hx
    exact ⟨e, he, ht.id.symm⟩
  · rintro ⟨e, he, rfl⟩
    obtain ⟨hstarts, d, hd⟩ := Shape.mem_startingCells.mp (mem_of_mem_numberFrom he)
    have hslot : e.2.starts.get d = some (s.scan e.2.position d) := by
      rw [hstarts, Shape.get_startsAt, if_pos hd]
    obtain ⟨c, hx, ht⟩ := h.exists_entry he hslot
    exact ⟨_, hx, ht.id⟩

theorem maxId_eq (h : p.Draws s clue?) : p.maxId = s.startingCells.length := by
  have hle : ∀ x ∈ p.entries, x.id ≤ s.startingCells.length := fun x hx =>
    ((h.mem_ids_iff x.id).mp (List.mem_map_of_mem hx)).2
  apply Nat.le_antisymm ((maxId_le_iff _).mpr hle)
  by_cases hzero : s.startingCells.length = 0
  · omega
  · obtain ⟨x, hx, hid⟩ := List.mem_map.mp ((h.mem_ids_iff _).mpr ⟨by omega, Nat.le_refl _⟩)
    rw [← hid]
    exact (maxId_le_iff _).mp (Nat.le_refl _) x hx

theorem increasing (h : p.Draws s clue?) (d : Direction) :
    ((p.clues.get d).map (·.id)).Pairwise (· < ·) := by
  rw [h.clues, List.pairwise_map, List.pairwise_filterMap]
  refine s.numbering.ascending.imp_of_mem fun {e f} he hf hlt b hb c hc => ?_
  rw [(h.tells d e he b hb).id, (h.tells d f hf c hc).id]
  exact hlt

theorem agree (h : p.Draws s clue?) {x y : Entry} (hx : x ∈ p.entries) (hy : y ∈ p.entries) :
    x.Agree y := by
  constructor
  · intro hid
    obtain ⟨⟨k, cell⟩, he, -, ht⟩ := h.exists_of_mem hx
    obtain ⟨⟨m, cell'⟩, hf, -, hu⟩ := h.exists_of_mem hy
    obtain rfl : k = m := (ht.id.symm.trans hid).trans hu.id
    rw [Table.mem_entries_iff] at he hf
    obtain rfl : cell = cell' := Option.some.inj (he.symm.trans hf)
    exact ht.position.trans hu.position.symm
  · intro c l m hl hm
    exact Option.some.inj ((h.letter_eq hx hl).1.symm.trans (h.letter_eq hy hm).1)

theorem lawful (h : p.Draws s clue?) (hslot : ∃ c d, s.starts c d = true) : p.Lawful := by
  refine ⟨?_, h.increasing, fun x hx => h.sound hx, fun x hx y hy => h.agree hx hy, ?_, ?_⟩
  · obtain ⟨c, d, hd⟩ := hslot
    obtain ⟨k, hk⟩ := Shape.mem_numbering_of_starts hd
    obtain ⟨clue, hx, -⟩ := h.exists_entry hk (by
      show (s.startsAt c).get d = some (s.scan c d)
      rw [Shape.get_startsAt, if_pos hd])
    exact List.ne_nil_of_mem hx
  · intro k
    rw [h.maxId_eq]
    exact h.mem_ids_iff k
  · intro x hx y hy hnext
    obtain ⟨e, he, -, ht⟩ := h.exists_of_mem hx
    obtain ⟨f, hf, -, hu⟩ := h.exists_of_mem hy
    have hlt : e.1 < f.1 := by
      rw [← ht.id, ← hu.id]
      exact Nat.lt_of_lt_of_eq (Nat.lt_succ_self _) hnext.symm
    rw [show x.position = e.2.position from ht.position, show y.position = f.2.position from hu.position]
    exact Shape.before_of_mem_numbering he hf hlt

-- The grid that is found is the one that was numbered, as far as slots run through it.
theorem cell?_eq (h : p.Draws s clue?) (hq : p.Outcome q) (hsize : s.size * s.size < Text.wordLimit)
    {c : Coord} (hc : c.Within s.size) :
    (s.InSlot c → q.cell? c = some (s.cell c).letter?) ∧
      (¬ s.InSlot c → q.cell? c = some (some blankCell)) := by
  obtain ⟨grid, hgrid, hshows⟩ := hq.grid
  have hcell : q.cell? c = some grid[c.flatIndex s.size]? := by
    have hlt := Coord.flatIndex_lt hc
    simp only [cell?, hq.side, h.side, if_pos hc, hgrid]
    rw [Machine.flatIndex_eq hc (by omega)]
    rfl
  rw [h.side] at hshows
  rw [hcell]
  constructor
  · intro hin
    obtain ⟨x, hx, l, hl⟩ := h.puts_of_inSlot hin
    rw [hshows.letter x hx c l hl, (h.letter_eq hx hl).1]
  · intro hout
    exact congrArg some (hshows.blank c hc fun x hx l hl => hout (h.letter_eq hx hl).2)

-- The answers are the slots, by ascending number.
theorem get_answers_eq (h : p.Draws s clue?) (d : Direction) :
    (p.clues.get d).map (fun c => String.ofList (lettersOf c.answer.toList)) =
      s.numbering.entries.filterMap fun e => (e.2.starts.get d).map String.ofList := by
  rw [h.clues, List.map_filterMap]
  apply List.filterMap_congr
  intro e he
  cases hclue : clue? d e with
  | some c => rw [(h.tells d e he c hclue).letters, Option.map_some, Option.map_some]
  | none =>
    cases hslot : e.2.starts.get d with
    | none => rfl
    | some letters =>
      obtain ⟨c, hc⟩ := h.told d e he letters hslot
      rw [hclue] at hc
      cases hc

end Draws

end Puzzle

end Cruciverb
