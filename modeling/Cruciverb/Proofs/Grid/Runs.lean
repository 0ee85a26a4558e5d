import Cruciverb.Proofs.Grid.Slot
import Mathlib.Tactic.Push

namespace Cruciverb.Shape

variable {s : Shape} {b c : Coord} {d : Direction}

-- A horizontal or vertical run of at least two open cells goes through the cell.
def InRun (s : Shape) (c : Coord) : Prop :=
  ∃ (b : Coord) (d : Direction) (n : Nat), 2 ≤ n ∧ (∀ m < n, s.isBlock (b.move d m) = false) ∧
    ∃ m < n, b.move d m = c

theorem starts_iff : s.starts c d = true ↔ s.isBlock c = false ∧ s.isBlock (c.move d 1) = false ∧
    ∀ b : Coord, b.move d 1 = c → 1 ≤ b.along d → s.isBlock b = true := by
  obtain ⟨x, y⟩ := c
  simp only [starts, Bool.and_eq_true, Bool.not_eq_true', and_assoc]
  refine and_congr_right fun hopen => and_congr_right fun _ => ?_
  have hwithin := within_of_open hopen
  obtain ⟨hx, -, hy, -⟩ := hwithin
  dsimp only at hx hy
  cases d with
  | across =>
    simp only [Bool.or_eq_true, beq_iff_eq]
    constructor
    · rintro hfirst ⟨bx, by'⟩ hb hpos
      simp only [Coord.move, Coord.mk.injEq] at hb
      simp only [Coord.along] at hpos
      obtain ⟨rfl, rfl⟩ := hb
      exact hfirst.resolve_left (by omega)
    · intro hprev
      by_cases hx1 : x = 1
      · exact .inl hx1
      · refine .inr (hprev ⟨x - 1, y⟩ ?_ ?_)
        · simp only [Coord.move, Coord.mk.injEq, and_true]
          omega
        · simp only [Coord.along]
          omega
  | down =>
    simp only [Bool.or_eq_true, beq_iff_eq]
    constructor
    · rintro hfirst ⟨bx, by'⟩ hb hpos
      simp only [Coord.move, Coord.mk.injEq] at hb
      simp only [Coord.along] at hpos
      obtain ⟨rfl, rfl⟩ := hb
      exact hfirst.resolve_left (by omega)
    · intro hprev
      by_cases hy1 : y = 1
      · exact .inl hy1
      · refine .inr (hprev ⟨x, y - 1⟩ ?_ ?_)
        · simp only [Coord.move, Coord.mk.injEq, true_and]
          omega
        · simp only [Coord.along]
          omega

-- Going back from two open cells, one comes to where their slot begins.
theorem exists_starts (hopen : s.isBlock c = false) (hnext : s.isBlock (c.move d 1) = false) :
    ∃ b n, s.starts b d = true ∧ (∀ m ≤ n + 1, s.isBlock (b.move d m) = false) ∧ b.move d n = c := by
  induction hk : c.along d generalizing c with
  | zero =>
    obtain ⟨hx, -, hy, -⟩ := within_of_open hopen
    cases d <;> simp only [Coord.along] at hk <;> omega
  | succ k ih =>
    by_cases hstarts : s.starts c d = true
    · refine ⟨c, 0, hstarts, fun m hm => ?_, Coord.move_zero c d⟩
      obtain rfl | rfl : m = 0 ∨ m = 1 := by omega
      · rwa [Coord.move_zero]
      · exact hnext
    · have hbehind : ∃ b : Coord, b.move d 1 = c ∧ 1 ≤ b.along d ∧ s.isBlock b ≠ true := by
        rw [starts_iff] at hstarts
        push Not at hstarts
        exact hstarts hopen hnext
      obtain ⟨b, rfl, hpos, hb⟩ := hbehind
      have hprev : s.isBlock b = false := by simpa using hb
      have halong : b.along d = k := by
        cases d <;> simp only [Coord.along, Coord.move] at hk ⊢ <;> omega
      obtain ⟨a, n, hbegins, hrun, rfl⟩ := ih hprev hopen halong
      refine ⟨a, n + 1, hbegins, fun m hm => ?_, (Coord.move_move a d n 1).symm⟩
      rcases Nat.lt_or_ge (n + 1) m with hlt | hle
      · obtain rfl : m = n + 1 + 1 := by omega
        rwa [Coord.move_move, Coord.move_move] at hnext
      · exact hrun m hle

theorem inSlot_iff_inRun : s.InSlot c ↔ s.InRun c := by
  constructor
  · rintro ⟨b, d, n, hstarts, hrun, rfl⟩
    obtain ⟨hopen, hnext, -⟩ := starts_iff.mp hstarts
    -- a slot goes on behind its first cell
    refine ⟨b, d, max 2 (n + 1), Nat.le_max_left _ _, fun m hm => ?_, n, by omega, rfl⟩
    by_cases hle : m ≤ n
    · exact hrun m hle
    · obtain rfl : m = 1 := by omega
      exact hnext
  · rintro ⟨b, d, n, hn, hrun, m, hm, rfl⟩
    by_cases hlast : m + 1 < n
    · obtain ⟨a, k, hstarts, hopen, heq⟩ := exists_starts (hrun m hm)
        (by rw [Coord.move_move]; exact hrun _ hlast)
      exact ⟨a, d, k, hstarts, fun j hj => hopen j (by omega), heq⟩
    · -- the last cell of a run has one before it
      obtain ⟨m, rfl⟩ : ∃ i, m = i + 1 := ⟨m - 1, by omega⟩
      obtain ⟨a, k, hstarts, hopen, heq⟩ := exists_starts (hrun m (by omega))
        (by rw [Coord.move_move]; exact hrun _ hm)
      exact ⟨a, d, k + 1, hstarts, hopen, by rw [← Coord.move_move, heq, Coord.move_move]⟩

section Maximal

-- Open cells from one on, with their letters, between blocks or edges.
structure MaximalRun (s : Shape) (d : Direction) (first : Coord) (letters : List Char) : Prop where
  two : 2 ≤ letters.length
  cells : ∀ n l, letters[n]? = some l →
    ∃ letter : Option Char, s.cell (first.move d n) = .open letter ∧ l = letter.getD Answer.star
  before : ∀ b : Coord, b.move d 1 = first → s.isBlock b = true
  behind : s.isBlock (first.move d letters.length) = true

theorem letter?_eq_some_iff {cell : Cell} {l : Char} : cell.letter? = some l ↔
    ∃ letter : Option Char, cell = .open letter ∧ l = letter.getD Answer.star := by
  cases cell with
  | block => simp
  | «open» letter => simp [eq_comm]

-- A cell before the first column or row is a block anyway.
theorem starts_iff_before : s.starts c d = true ↔ s.isBlock c = false ∧ s.isBlock (c.move d 1) = false ∧
    ∀ b : Coord, b.move d 1 = c → s.isBlock b = true := by
  rw [starts_iff]
  refine and_congr_right fun _ => and_congr_right fun _ => forall₂_congr fun b _ => ?_
  constructor
  · intro h
    rw [← Bool.not_eq_false]
    intro hopen
    obtain ⟨hx, -, hy, -⟩ := within_of_open hopen
    have hpos : 1 ≤ b.along d := by cases d <;> assumption
    rw [h hpos] at hopen
    cases hopen
  · exact fun h _ => h

theorem MaximalRun.isBlock_eq_false {letters : List Char} (h : s.MaximalRun d b letters) {n : Nat}
    (hn : n < letters.length) : s.isBlock (b.move d n) = false := by
  obtain ⟨letter, hcell, -⟩ := h.cells n _ (List.getElem?_eq_getElem hn)
  rw [isBlock, hcell, Cell.isBlock_open]

theorem MaximalRun.starts {letters : List Char} (h : s.MaximalRun d c letters) :
    s.starts c d = true := by
  have htwo := h.two
  refine starts_iff_before.mpr ⟨?_, h.isBlock_eq_false (by omega), h.before⟩
  have hfirst := h.isBlock_eq_false (n := 0) (by omega)
  rwa [Coord.move_zero] at hfirst

-- The block behind the run ends the scan, and nothing ends it before.
theorem MaximalRun.eq_scan {letters : List Char} (h : s.MaximalRun d c letters) :
    letters = s.scan c d := by
  refine List.ext_getElem?_iff.mpr fun n => Option.ext fun l => ?_
  rw [getElem?_scan]
  constructor
  · intro hl
    have hn := (List.getElem?_eq_some_iff.mp hl).1
    exact ⟨fun m hm => h.isBlock_eq_false (by omega), letter?_eq_some_iff.mpr (h.cells n l hl)⟩
  · rintro ⟨hrun, hletter⟩
    have hn : n < letters.length := by
      by_contra hle
      have hblock := hrun letters.length (by omega)
      rw [h.behind] at hblock
      cases hblock
    obtain ⟨letter, hcell, hl⟩ := h.cells n _ (List.getElem?_eq_getElem hn)
    rw [hcell, Cell.letter?_open, Option.some.injEq] at hletter
    rw [List.getElem?_eq_getElem hn, hl, hletter]

theorem maximalRun_scan (h : s.starts c d = true) : s.MaximalRun d c (s.scan c d) := by
  obtain ⟨hopen, hnext, hbefore⟩ := starts_iff_before.mp h
  refine ⟨?_, fun n l hl => letter?_eq_some_iff.mp (getElem?_scan.mp hl).2, hbefore, ?_⟩
  · obtain ⟨l, hl⟩ := isBlock_eq_false_iff.mp hnext
    have hsecond : (s.scan c d)[1]? = some l := by
      refine getElem?_scan.mpr ⟨fun m hm => ?_, hl⟩
      obtain rfl | rfl : m = 0 ∨ m = 1 := by omega
      · rwa [Coord.move_zero]
      · exact hnext
    exact (List.getElem?_eq_some_iff.mp hsecond).1
  · rw [← Bool.not_eq_false]
    intro hend
    obtain ⟨l, hl⟩ := isBlock_eq_false_iff.mp hend
    have hmore : (s.scan c d)[(s.scan c d).length]? = some l := by
      refine getElem?_scan.mpr ⟨fun m hm => ?_, hl⟩
      rcases Nat.lt_or_eq_of_le hm with hlt | rfl
      · exact (getElem?_scan.mp (List.getElem?_eq_getElem hlt)).1 m (Nat.le_refl m)
      · exact hend
    rw [List.getElem?_eq_none (Nat.le_refl _)] at hmore
    cases hmore

theorem maximalRun_iff {letters : List Char} :
    s.MaximalRun d c letters ↔ s.starts c d = true ∧ letters = s.scan c d := by
  constructor
  · exact fun h => ⟨h.starts, h.eq_scan⟩
  · rintro ⟨hstarts, rfl⟩
    exact maximalRun_scan hstarts

-- A run goes through the cells from its first one on, as many as it has letters.
def Through (d : Direction) (slot : Coord × List Char) (c : Coord) : Prop :=
  ∃ n < slot.2.length, slot.1.move d n = c

theorem eq_move_of_move_eq {m n : Nat} (hle : n ≤ m) (h : c.move d n = b.move d m) :
    c = b.move d (m - n) := by
  obtain ⟨bx, by'⟩ := b
  obtain ⟨cx, cy⟩ := c
  cases d <;> simp only [Coord.move, Coord.mk.injEq] at h ⊢ <;> omega

-- A run that begins no earlier in the same line begins where the other one does, since there is a block
-- before it.
theorem MaximalRun.first_eq {ls ls' : List Char} (h : s.MaximalRun d c ls) (h' : s.MaximalRun d b ls')
    {m n : Nat} (hm : m < ls'.length) (hle : n ≤ m) (heq : c.move d n = b.move d m) : c = b := by
  have hmove := eq_move_of_move_eq hle heq
  cases hgap : m - n with
  | zero => rw [hmove, hgap, Coord.move_zero]
  | succ k =>
    have hprevious : (b.move d k).move d 1 = c := by rw [Coord.move_move, hmove, hgap]
    have hblock := h.before _ hprevious
    rw [h'.isBlock_eq_false (by omega)] at hblock
    cases hblock

-- Two slots of a direction have no cell in common.
theorem MaximalRun.eq_of_through {slot slot' : Coord × List Char} (h : s.MaximalRun d slot.1 slot.2)
    (h' : s.MaximalRun d slot'.1 slot'.2) (hc : Through d slot c) (hc' : Through d slot' c) :
    slot = slot' := by
  obtain ⟨n, hn, rfl⟩ := hc
  obtain ⟨m, hm, heq⟩ := hc'
  have hfirst : slot.1 = slot'.1 := by
    rcases Nat.le_total n m with hle | hle
    · exact h.first_eq h' hm hle heq.symm
    · exact (h'.first_eq h hn hle heq).symm
  refine Prod.ext hfirst ?_
  rw [h.eq_scan, h'.eq_scan, hfirst]

end Maximal

section Listing

-- The slots of a direction that a table lists, each by its first cell.
def slotsIn (t : Table NumberedCell) (d : Direction) : List (Coord × List Char) :=
  t.entries.filterMap fun e => (e.2.starts.get d).map fun letters => (e.2.position, letters)

theorem mem_slotsIn_numbering {slot : Coord × List Char} :
    slot ∈ slotsIn s.numbering d ↔ s.MaximalRun d slot.1 slot.2 := by
  rw [maximalRun_iff, slotsIn, List.mem_filterMap]
  constructor
  · rintro ⟨e, he, hslot⟩
    obtain ⟨letters, hletters, rfl⟩ := Option.map_eq_some_iff.mp hslot
    obtain ⟨hstarts, hscan⟩ := get_starts_of_mem_numbering he hletters
    exact ⟨hstarts, hscan.symm⟩
  · rintro ⟨hstarts, hscan⟩
    obtain ⟨k, hk⟩ := mem_numbering_of_starts hstarts
    refine ⟨_, hk, ?_⟩
    rw [get_startsAt, if_pos hstarts, ← hscan]
    rfl

theorem pairwise_entries_numbering (s : Shape) :
    s.numbering.entries.Pairwise fun e f => e.2.position.Before f.2.position :=
  s.numbering.ascending.imp_of_mem fun he hf hlt => before_of_mem_numbering he hf hlt

theorem pairwise_slotsIn (s : Shape) (d : Direction) :
    (slotsIn s.numbering d).Pairwise fun a b => a.1.Before b.1 := by
  rw [slotsIn, List.pairwise_filterMap]
  refine s.pairwise_entries_numbering.imp fun {e f} hef a ha b hb => ?_
  obtain ⟨_, -, rfl⟩ := Option.map_eq_some_iff.mp ha
  obtain ⟨_, -, rfl⟩ := Option.map_eq_some_iff.mp hb
  exact hef

-- A cell that is open together with a neighbour is in one slot, and in no other of the direction.
theorem existsUnique_slot (hopen : s.isBlock c = false)
    (hneighbour : s.isBlock (c.move d 1) = false ∨ ∃ b : Coord, b.move d 1 = c ∧ s.isBlock b = false) :
    ∃! slot, slot ∈ slotsIn s.numbering d ∧ Through d slot c := by
  obtain ⟨b, n, hstarts, hrun, hmove⟩ : ∃ b n, s.starts b d = true ∧
      (∀ m ≤ n, s.isBlock (b.move d m) = false) ∧ b.move d n = c := by
    rcases hneighbour with hnext | ⟨a, rfl, ha⟩
    · obtain ⟨b, n, hstarts, hrun, hmove⟩ := exists_starts hopen hnext
      exact ⟨b, n, hstarts, fun m hm => hrun m (by omega), hmove⟩
    · obtain ⟨b, n, hstarts, hrun, rfl⟩ := exists_starts ha hopen
      exact ⟨b, n + 1, hstarts, hrun, (Coord.move_move b d n 1).symm⟩
  obtain ⟨l, hl⟩ := isBlock_eq_false_iff.mp (hrun n (Nat.le_refl n))
  have hlength := (List.getElem?_eq_some_iff.mp (getElem?_scan.mpr ⟨hrun, hl⟩)).1
  have hmaximal : s.MaximalRun d b (s.scan b d) := maximalRun_scan hstarts
  refine ⟨(b, s.scan b d), ⟨mem_slotsIn_numbering.mpr hmaximal, n, hlength, hmove⟩, ?_⟩
  rintro slot ⟨hslot, hthrough⟩
  exact (mem_slotsIn_numbering.mp hslot).eq_of_through hmaximal hthrough ⟨n, hlength, hmove⟩

end Listing

end Cruciverb.Shape
