import Cruciverb.Text.Numeral

namespace Cruciverb

-- Across comes before down wherever both are visited.
inductive Direction where
  | across
  | down
  deriving DecidableEq, Repr

namespace Direction

def all : List Direction := [.across, .down]

def name : Direction → String
  | .across => "across"
  | .down => "down"

-- Capitals and small letters are alike, but only the ASCII ones.
def ofName? (s : String) : Option Direction :=
  let key := s.toList.map Char.toLower
  if key = "across".toList then some .across
  else if key = "down".toList then some .down
  else none

-- The distance between two neighbouring cells of an answer when the rows follow one another.
def step (side : Nat) : Direction → Nat
  | .across => 1
  | .down => side

@[simp] theorem ofName?_name (d : Direction) : ofName? d.name = some d := by
  cases d <;> decide

end Direction

-- One value for each direction.
structure Both (α : Type) where
  across : α
  down : α
  deriving DecidableEq, Repr

namespace Both

variable {α β : Type}

def get (b : Both α) : Direction → α
  | .across => b.across
  | .down => b.down

def modify (b : Both α) (d : Direction) (f : α → α) : Both α :=
  match d with
  | .across => { b with across := f b.across }
  | .down => { b with down := f b.down }

def map (f : α → β) (b : Both α) : Both β := ⟨f b.across, f b.down⟩

def of (f : Direction → α) : Both α := ⟨f .across, f .down⟩

@[simp] theorem get_of (f : Direction → α) (d : Direction) : (of f).get d = f d := by
  cases d <;> rfl

@[simp] theorem get_map (f : α → β) (b : Both α) (d : Direction) :
    (b.map f).get d = f (b.get d) := by
  cases d <;> rfl

@[simp] theorem get_modify (b : Both α) (d e : Direction) (f : α → α) :
    (b.modify d f).get e = if d = e then f (b.get e) else b.get e := by
  cases d <;> cases e <;> rfl

end Both

-- Columns and rows are counted from 1, starting at the top left.
structure Coord where
  x : Nat
  y : Nat
  deriving DecidableEq, Repr

namespace Coord

-- The place in a grid whose rows follow one another; it has a meaning from (1,1) on.
def flatIndex (side : Nat) (c : Coord) : Nat := (c.x - 1) + (c.y - 1) * side

-- Grows along the rows, and from each row to the next.
def ordinal (side : Nat) (c : Coord) : Nat := c.x + c.y * side

-- The cell `n` steps further on.
def move (d : Direction) (n : Nat) (c : Coord) : Coord :=
  match d with
  | .across => { c with x := c.x + n }
  | .down => { c with y := c.y + n }

-- The number of the column for an answer across, of the row for one down.
def along (c : Coord) : Direction → Nat
  | .across => c.x
  | .down => c.y

def text (c : Coord) : String := "(" ++ toString c.x ++ "," ++ toString c.y ++ ")"

-- Inside a square grid of the given side.
def Within (side : Nat) (c : Coord) : Prop := 1 ≤ c.x ∧ c.x ≤ side ∧ 1 ≤ c.y ∧ c.y ≤ side

instance (side : Nat) (c : Coord) : Decidable (c.Within side) :=
  inferInstanceAs (Decidable (_ ∧ _))

theorem flatIndex_lt {side : Nat} {c : Coord} (h : c.Within side) :
    c.flatIndex side < side * side := by
  obtain ⟨hx, hx', hy, hy'⟩ := h
  have hrow : (c.y - 1) * side + side ≤ side * side := by
    rw [← Nat.succ_mul]
    exact Nat.mul_le_mul_right side (by omega)
  simp only [flatIndex]
  omega

end Coord

namespace Machine

-- Both of them as the machine finds them.
def flatIndex (side : Nat) (c : Coord) : Option Nat := do
  let column ← sub c.x 1
  let row ← sub c.y 1
  let before ← mul row side
  add column before

def ordinal (side : Nat) (c : Coord) : Option Nat := do
  let before ← mul c.y side
  add c.x before

theorem flatIndex_eq {side : Nat} {c : Coord} (h : c.Within side)
    (hlt : c.flatIndex side < Text.wordLimit) : flatIndex side c = some (c.flatIndex side) := by
  obtain ⟨hx, -, hy, -⟩ := h
  rw [Coord.flatIndex] at hlt
  rw [flatIndex, sub_eq hx, sub_eq hy]
  simp only [Option.bind_eq_bind, Option.bind_some]
  rw [mul_eq (by omega), Option.bind_some, add_eq (by omega)]
  rfl

theorem flatIndex_eq_some {side i : Nat} {c : Coord} (h : flatIndex side c = some i) :
    c.flatIndex side = i ∧ i < Text.wordLimit := by
  simp only [flatIndex, sub, mul, add, Option.bind_eq_bind, Option.bind_eq_some_iff] at h
  obtain ⟨column, hcolumn, row, hrow, before, hbefore, hplace⟩ := h
  split at hcolumn
  · split at hrow
    · split at hbefore
      · split at hplace
        · cases hcolumn
          cases hrow
          cases hbefore
          cases hplace
          exact ⟨rfl, by assumption⟩
        · cases hplace
      · cases hbefore
    · cases hrow
  · cases hcolumn

end Machine

inductive Dimensions where
  | fifteen
  | seventeen
  deriving DecidableEq, Repr

namespace Dimensions

def side : Dimensions → Nat
  | .fifteen => 15
  | .seventeen => 17

def text (d : Dimensions) : String := toString d.side ++ "x" ++ toString d.side

def ofText? (s : String) : Option Dimensions :=
  let key := s.toList.map Char.toLower
  if key = "15x15".toList then some .fifteen
  else if key = "17x17".toList then some .seventeen
  else none

@[simp] theorem ofText?_text (d : Dimensions) : ofText? d.text = some d := by
  cases d <;> decide

end Dimensions

end Cruciverb
