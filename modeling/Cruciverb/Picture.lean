import Cruciverb.Spec

namespace Cruciverb

namespace Picture

-- The tens of a number, left out below ten.
def tens (n : Nat) : Char := if n / 10 = 0 then ' ' else Nat.digitChar (n / 10 % 10)

def units (n : Nat) : Char := Nat.digitChar (n % 10)

def cellChar (c : Char) : Char := if c = blankCell then '.' else c

def rulers (side : Nat) : List (List Char) :=
  let columns := List.range' 1 side
  [tens, units, fun _ => ' '].map fun f => [' ', ' ', ' '] ++ columns.map f

def row (y : Nat) (cells : List Char) : List Char :=
  [tens y, units y, ' '] ++ cells.map cellChar

def lines (side : Nat) (grid : List Char) : List (List Char) :=
  rulers side ++ List.zipWith row (List.range' 1 side) (rowsOf side grid)

end Picture

-- Empty for a puzzle that has no grid yet.
def Puzzle.picture (p : Puzzle) : String :=
  match p.grid, p.side with
  | some grid, some side => String.ofList (['\n'].intercalate (Picture.lines side grid))
  | _, _ => ""

end Cruciverb
