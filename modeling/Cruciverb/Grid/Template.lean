import Cruciverb.Grid.Numbering

namespace Cruciverb

structure Template where
  name : String
  -- `#` for a block, anything else for an open cell
  rows : List String
  deriving DecidableEq, Repr

namespace Template

def shape? (t : Template) : Option Shape := Shape.ofRows? t.rows

def size (t : Template) : Nat := t.rows.length

-- Nothing is numbered where the rows form no square.
def numbering (t : Template) : Table NumberedCell :=
  match t.shape? with
  | none => .empty
  | some s => s.numbering

-- The numbers that have a slot in the direction, ascending.
def ids (t : Template) (d : Direction) : List Nat :=
  (t.numbering.entries.filter fun e => (e.2.starts.get d).isSome).map (·.1)

def quickSlowA : Template where
  name := "quick-slow-a"
  rows := [
    ".......#.......",
    ".#.#.#.#.#.#.#.",
    ".........#.....",
    ".#.#.#.#.#.#.#.",
    ".....#.........",
    ".#.#.#.#.#.#.#.",
    ".......#.......",
    ".#.#.#...#.#.#.",
    ".......#.......",
    ".#.#.#.#.#.#.#.",
    ".........#.....",
    ".#.#.#.#.#.#.#.",
    ".....#.........",
    ".#.#.#.#.#.#.#.",
    ".......#......."]

def quickSlowB : Template where
  name := "quick-slow-b"
  rows := [
    ".........#.....",
    ".#.#.#.#.#.#.#.",
    ".......#.......",
    ".#.#.#.#.#.#.#.",
    "....#..........",
    ".#.#.#.#.#.#.#.",
    "...#.......#...",
    ".#.#.#.#.#.#.#.",
    "...#.......#...",
    ".#.#.#.#.#.#.#.",
    "..........#....",
    ".#.#.#.#.#.#.#.",
    ".......#.......",
    ".#.#.#.#.#.#.#.",
    ".....#........."]

-- The layouts that quick-slow puzzles have been published in.
def builtIn : List Template := [quickSlowA, quickSlowB]

def findByAcross? (library : List Template) (ids : List Nat) : Option Template :=
  library.find? fun t => t.ids .across == ids

end Template

end Cruciverb
