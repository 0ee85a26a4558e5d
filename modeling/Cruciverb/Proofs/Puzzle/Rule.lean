import Cruciverb.Proofs.Answer.Spelling
import Cruciverb.Proofs.Grid.Cells
import Cruciverb.Puzzle.Basic

namespace Cruciverb

open Cruciverb.Answer

-- A clue and the direction it runs in.
structure Entry where
  direction : Direction
  clue : Clue

namespace Entry

def id (e : Entry) : Nat := e.clue.id

def position (e : Entry) : Coord := e.clue.position

def letters (e : Entry) : List Char := lettersOf e.clue.answer.toList

-- The answer runs through the cell and has the letter there.
def Puts (e : Entry) (c : Coord) (letter : Char) : Prop :=
  ∃ n, e.position.move e.direction n = c ∧ e.letters[n]? = some letter

-- The answer stays inside of a grid of the given side.
def Fits (side : Nat) (e : Entry) : Prop :=
  e.letters.length ≤ side ∧ e.position.along e.direction + e.letters.length - 1 ≤ side

-- What a clue has to be on its own.
structure Sound (side : Nat) (e : Entry) : Prop where
  id_pos : 0 < e.id
  within : e.position.Within side
  words : ∀ w ∈ wordsOf e.clue.answer.toList, w ≠ []
  fits : e.Fits side

-- What two clues have to agree on.
structure Agree (e f : Entry) : Prop where
  position : e.id = f.id → e.position = f.position
  letter : ∀ c l m, e.Puts c l → f.Puts c m → l = m

theorem Puts.letter_eq {e : Entry} {c : Coord} {l m : Char} (hl : e.Puts c l) (hm : e.Puts c m) :
    l = m := by
  obtain ⟨i, hi, hl⟩ := hl
  obtain ⟨j, hj, hm⟩ := hm
  obtain rfl := Coord.move_inj (hi.trans hj.symm)
  exact Option.some.inj (hl.symm.trans hm)

theorem Puts.mem_letters {e : Entry} {c : Coord} {l : Char} (h : e.Puts c l) : l ∈ e.letters := by
  obtain ⟨n, -, hn⟩ := h
  exact List.mem_of_getElem? hn

theorem agree_self (e : Entry) : e.Agree e := ⟨fun _ => rfl, fun _ _ _ => Puts.letter_eq⟩

theorem Agree.symm {e f : Entry} (h : e.Agree f) : f.Agree e :=
  ⟨fun hid => (h.position hid.symm).symm, fun c l m hl hm => (h.letter c m l hm hl).symm⟩

-- A cell that an answer runs through is a cell of the grid.
theorem Sound.within_of_puts {side : Nat} {e : Entry} (h : e.Sound side) {c : Coord} {l : Char}
    (hp : e.Puts c l) : c.Within side := by
  obtain ⟨n, rfl, hl⟩ := hp
  obtain ⟨hn, -⟩ := List.getElem?_eq_some_iff.mp hl
  have := h.fits.2
  exact Coord.within_move h.within (by omega)

end Entry

namespace Puzzle

-- Across first, each direction in the order in which it is written.
def entries (p : Puzzle) : List Entry :=
  Direction.all.flatMap fun d => (p.clues.get d).map (Entry.mk d)

def ids (p : Puzzle) : List Nat := p.entries.map Entry.id

def maxId (p : Puzzle) : Nat := p.ids.foldr max 0

structure Lawful (p : Puzzle) : Prop where
  clued : p.entries ≠ []
  increasing : ∀ d, ((p.clues.get d).map (·.id)).Pairwise (· < ·)
  sound : ∀ e ∈ p.entries, e.Sound p.dimensions.side
  agree : ∀ e ∈ p.entries, ∀ f ∈ p.entries, e.Agree f
  numbered : ∀ k, k ∈ p.ids ↔ 1 ≤ k ∧ k ≤ p.maxId
  ordered : ∀ e ∈ p.entries, ∀ f ∈ p.entries, f.id = e.id + 1 → e.position.Before f.position

theorem mem_entries {p : Puzzle} {e : Entry} :
    e ∈ p.entries ↔ e.clue ∈ p.clues.get e.direction := by
  obtain ⟨d, c⟩ := e
  cases d <;> simp [entries, Direction.all]

end Puzzle

end Cruciverb
