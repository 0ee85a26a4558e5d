import Cruciverb.Grid.Numbering

namespace Cruciverb

namespace Coord

-- The neighbour further on, unless there is no machine word for its column or row.
def next? (d : Direction) (c : Coord) : Option Coord :=
  match d with
  | .across => (Machine.add c.x 1).map fun x => { c with x }
  | .down => (Machine.add c.y 1).map fun y => { c with y }

def previous (d : Direction) (c : Coord) : Coord :=
  match d with
  | .across => { c with x := c.x - 1 }
  | .down => { c with y := c.y - 1 }

theorem next?_eq_some {c c' : Coord} {d : Direction} (h : c.next? d = some c') : c' = c.move d 1 := by
  cases d with
  | across =>
    simp only [next?, Machine.add, Option.map_eq_some_iff] at h
    obtain ⟨x, hx, rfl⟩ := h
    split at hx
    · cases hx
      rfl
    · cases hx
  | down =>
    simp only [next?, Machine.add, Option.map_eq_some_iff] at h
    obtain ⟨y, hy, rfl⟩ := h
    split at hy
    · cases hy
      rfl
    · cases hy

theorem along_move (c : Coord) (d : Direction) (n : Nat) : (c.move d n).along d = c.along d + n := by
  cases d <;> rfl

theorem Within.along {side : Nat} {c : Coord} (h : c.Within side) (d : Direction) :
    1 ≤ c.along d ∧ c.along d ≤ side := by
  obtain ⟨hx, hx', hy, hy'⟩ := h
  cases d with
  | across => exact ⟨hx, hx'⟩
  | down => exact ⟨hy, hy'⟩

end Coord

namespace Shape

-- More cells than that, at four bytes each, cannot be addressed.
def cellLimit : Nat := 0x2000000000000000

-- A grid of open cells, unless the machine cannot count or address them.
def open? (size : Nat) : Option Shape :=
  match Machine.mul size size with
  | none => none
  | some count => if count < cellLimit then some (ofSize size) else none

theorem open?_eq (size : Nat) :
    open? size = if size * size < cellLimit then some (ofSize size) else none := by
  rw [open?]
  by_cases h : size * size < Text.wordLimit
  · rw [Machine.mul_eq h]
  · have hlimit : cellLimit ≤ Text.wordLimit := by decide
    rw [Machine.mul_eq_none (Nat.le_of_not_lt h), if_neg (by omega)]

-- A look at a cell. The machine stops where the cell is missing in the table.
def look? (s : Shape) (c : Coord) : Option Cell :=
  if c.Within s.size then (Machine.flatIndex s.size c).bind fun i => s.cells[i]? else some .block

theorem look?_of_not_within {s : Shape} {c : Coord} (h : ¬ c.Within s.size) :
    s.look? c = some .block := by
  rw [look?, if_neg h]

theorem within_of_look? {s : Shape} {c : Coord} {letter : Option Char}
    (h : s.look? c = some (.open letter)) : c.Within s.size :=
  Decidable.byContradiction fun hc => by
    rw [look?_of_not_within hc] at h
    cases h

-- Nothing is put outside of the grid.
def set? (s : Shape) (c : Coord) (cell : Cell) : Option Shape :=
  if c.Within s.size then
    (Machine.flatIndex s.size c).bind fun i =>
      if i < s.cells.size then some { s with cells := s.cells.setIfInBounds i cell } else none
  else some s

theorem set?_eq_some {s s' : Shape} {c : Coord} {cell : Cell} (h : s.set? c cell = some s') :
    s' = s.set c cell := by
  rw [set?] at h
  rw [set, index?]
  split at h
  · next hc =>
    obtain ⟨i, hi, h⟩ := Option.bind_eq_some_iff.mp h
    obtain ⟨rfl, -⟩ := Machine.flatIndex_eq_some hi
    rw [if_pos hc]
    split at h
    · exact (Option.some.inj h).symm
    · cases h
  · next hc =>
    rw [if_neg hc]
    exact (Option.some.inj h).symm

-- The cell before is looked at last, and only where there is one.
def starts? (s : Shape) (c : Coord) (d : Direction) : Option Bool :=
  match s.look? c with
  | none => none
  | some .block => some false
  | some (.open _) =>
    match (c.next? d).bind s.look? with
    | none => none
    | some .block => some false
    | some (.open _) =>
      if c.along d = 1 then some true else (s.look? (c.previous d)).map Cell.isBlock

-- The letters from a cell on. It ends at the edge at the latest.
def scan? (s : Shape) (c : Coord) (d : Direction) : Option (List Char) :=
  match _here : s.look? c with
  | none => none
  | some .block => some []
  | some (.open letter) =>
    match _next : c.next? d with
    | none => none
    | some c' => (s.scan? c' d).map (letter.getD Answer.star :: ·)
  termination_by s.size + 1 - c.along d
  decreasing_by
    have hpos := (within_of_look? _here).along d
    rw [Coord.next?_eq_some _next, Coord.along_move]
    omega

def slot? (s : Shape) (c : Coord) (d : Direction) : Option (Option (List Char)) :=
  match s.starts? c d with
  | none => none
  | some false => some none
  | some true => (s.scan? c d).map some

def startsAt? (s : Shape) (c : Coord) : Option (Starts (List Char)) :=
  match s.slot? c .across with
  | none => none
  | some across => (s.slot? c .down).map fun down => ⟨across, down⟩

-- Numbers the cells from one on; `left` cells are still to be looked at. The number that is to come next
-- has 32 bits, and the machine stops where it would not fit.
def numberOn? (s : Shape) : (left : Nat) → Coord → (next : Nat) → Table NumberedCell →
    Option (Table NumberedCell)
  | 0, _, _, t => some t
  | left + 1, c, next, t =>
    match s.startsAt? c with
    | none => none
    | some starts =>
      let behind := if c.x = s.size then ⟨1, c.y + 1⟩ else ⟨c.x + 1, c.y⟩
      if 0 < starts.count then
        if next + 1 < Text.idLimit then
          s.numberOn? left behind (next + 1) (t.insert next ⟨c, starts⟩)
        else none
      else s.numberOn? left behind next t

def numbering? (s : Shape) : Option (Table NumberedCell) :=
  s.numberOn? (s.size * s.size) ⟨1, 1⟩ 1 .empty

end Shape

end Cruciverb
