import Cruciverb.Grid.Shape
import Cruciverb.Table

namespace Cruciverb

structure NumberedCell where
  position : Coord
  starts : Starts (List Char)
  deriving DecidableEq

namespace Shape

-- Every cell, along the rows from the top left.
def positions (s : Shape) : List Coord :=
  (List.range' 1 s.size).flatMap fun y => (List.range' 1 s.size).map fun x => ⟨x, y⟩

-- The cells where a slot begins.
def startingCells (s : Shape) : List NumberedCell :=
  (s.positions.map fun c => NumberedCell.mk c (s.startsAt c)).filter fun cell =>
    0 < cell.starts.count

end Shape

-- The numbers from `n` on.
def numberFrom {α : Type} (n : Nat) : List α → List (Nat × α)
  | [] => []
  | a :: rest => (n, a) :: numberFrom (n + 1) rest

theorem lt_of_mem_numberFrom {α : Type} {n : Nat} {as : List α} {e : Nat × α}
    (h : e ∈ numberFrom n as) : n ≤ e.1 := by
  induction as generalizing n with
  | nil => cases h
  | cons a rest ih =>
    rcases List.mem_cons.mp h with rfl | h
    · exact Nat.le_refl n
    · exact Nat.le_of_succ_le (ih h)

theorem ascending_numberFrom {α : Type} (n : Nat) (as : List α) :
    (numberFrom n as).Pairwise (·.1 < ·.1) := by
  induction as generalizing n with
  | nil => exact .nil
  | cons a rest ih =>
    exact List.pairwise_cons.mpr ⟨fun e he => lt_of_mem_numberFrom he, ih (n + 1)⟩

namespace Shape

def numbering (s : Shape) : Table NumberedCell :=
  ⟨numberFrom 1 s.startingCells, ascending_numberFrom 1 s.startingCells⟩

end Shape

end Cruciverb
