import Cruciverb.Answer.Words
import Cruciverb.Grid.Coord

namespace Cruciverb

inductive Cell where
  | block
  | open (letter : Option Char)
  deriving DecidableEq, Repr, Inhabited

namespace Cell

def isBlock : Cell → Bool
  | .block => true
  | .open _ => false

-- The letter of an open cell, a placeholder if it has none.
def letter? : Cell → Option Char
  | .block => none
  | .open letter => some (letter.getD Answer.star)

end Cell

-- A square table of cells, its rows one behind the other.
structure Shape where
  size : Nat
  cells : Array Cell
  deriving DecidableEq

namespace Shape

-- All cells open.
def ofSize (size : Nat) : Shape := ⟨size, Array.replicate (size * size) (.open none)⟩

-- From rows of blocks `#` and any other character for an open cell, if they form a square.
def ofRows? (rows : List String) : Option Shape :=
  if rows.all fun row => row.toList.length == rows.length then
    some ⟨rows.length, (rows.flatMap fun row =>
      row.toList.map fun c => if c = '#' then Cell.block else Cell.open none).toArray⟩
  else none

def index? (s : Shape) (c : Coord) : Option Nat :=
  if c.Within s.size then some (c.flatIndex s.size) else none

def set (s : Shape) (c : Coord) (cell : Cell) : Shape :=
  match s.index? c with
  | none => s
  | some i => { s with cells := s.cells.setIfInBounds i cell }

def cell (s : Shape) (c : Coord) : Cell :=
  match s.index? c with
  | none => .block
  | some i => s.cells.getD i .block

def isBlock (s : Shape) (c : Coord) : Bool := (s.cell c).isBlock

-- A slot begins at an open cell with an open cell behind it and no open cell before it.
def starts (s : Shape) (c : Coord) (d : Direction) : Bool :=
  !s.isBlock c && !s.isBlock (c.move d 1) &&
    match d with
    | .across => c.x == 1 || s.isBlock ⟨c.x - 1, c.y⟩
    | .down => c.y == 1 || s.isBlock ⟨c.x, c.y - 1⟩

-- The cells from `c` on to the edge.
def ahead (s : Shape) (c : Coord) (d : Direction) : List Cell :=
  (List.range (s.size + 1 - c.along d)).map fun n => s.cell (c.move d n)

-- The letters of the open cells up to the next block or the edge.
def scan (s : Shape) (c : Coord) (d : Direction) : List Char :=
  ((s.ahead c d).takeWhile fun cell => !cell.isBlock).filterMap Cell.letter?

end Shape

-- The slots, across and down, that begin at one cell. A slot is known by its letters; where only
-- its length matters, that is all there is.
abbrev Starts (α : Type) := Both (Option α)

namespace Starts

variable {α : Type}

def count (s : Starts α) : Nat := s.across.toList.length + s.down.toList.length

-- The one direction in which a slot begins.
def only? (s : Starts α) : Option Direction :=
  match s.across, s.down with
  | some _, none => some .across
  | none, some _ => some .down
  | _, _ => none

def lengths (s : Starts (List Char)) : Starts Nat := s.map (·.map List.length)

end Starts

namespace Shape

def startsAt (s : Shape) (c : Coord) : Starts (List Char) :=
  Both.of fun d => if s.starts c d then some (s.scan c d) else none

end Shape

end Cruciverb
