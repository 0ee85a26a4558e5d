import Cruciverb.Puzzle.Basic

namespace Cruciverb

open Cruciverb.Answer

-- Writes the letters at `index` and every `step` cells behind it, until one would change a letter.
-- The number of that letter, counted from `n`, is handed back.
def writeLetters (step : Nat) : (letters : List Char) → (index n : Nat) → (grid : List Char) →
    List Char × Option Nat
  | [], _, _, grid => (grid, none)
  | letter :: rest, index, n, grid =>
    match grid[index]? with
    | none => (grid, none)
    | some cell =>
      if cell = blankCell then
        writeLetters step rest (index + step) (n + 1) (grid.set index letter)
      else if cell = letter then writeLetters step rest (index + step) (n + 1) grid
      else (grid, some n)

-- What the walk has found so far.
structure Walk where
  grid : List Char
  starts : Table Clue
  answers : Both (List String)
  -- the largest id of any clue, whatever else is wrong with the clue
  maxId : Nat

def Walk.start (side : Nat) : Walk where
  grid := List.replicate (side * side) blankCell
  starts := .empty
  answers := ⟨[], []⟩
  maxId := 0

-- What one clue comes to: the clue with what was found about it, the walk behind it, and the id
-- that the next clue of the direction has to exceed.
structure Step where
  clue : Clue
  walk : Walk
  last : Nat
  problems : List Problem

def positionProblem? (side : Nat) (c : Coord) : Option Problem :=
  if side < c.x then some .xTooLarge
  else if side < c.y then some .yTooLarge
  else if c.x = 0 then some .xTooSmall
  else if c.y = 0 then some .yTooSmall
  else none

-- Puts the answer of a clue, whose number and place are in order, into the grid.
def placeAnswer (side : Nat) (d : Direction) (w : Walk) (last : Nat) (clue : Clue) : Step :=
  let unpacked := unpack clue.answer.toList
  let letters := unpacked.letters
  let flaws := unpacked.flaws.map Problem.word
  let clue := { clue with
    answer := String.ofList unpacked.answer
    numeric := some (String.ofList unpacked.numeric)
    letters := some (String.ofList letters) }
  if side < letters.length then ⟨clue, w, last, flaws ++ [.answerTooLong]⟩
  else
    let clue := { clue with wordLengths := unpacked.wordLengths }
    let w := { w with answers := w.answers.modify d (· ++ [String.ofList letters]) }
    if side < letters.length + clue.position.along d - 1 then
      ⟨clue, w, last, flaws ++ [.answerOverflows]⟩
    else
      let (grid, clash) := writeLetters (d.step side) letters (clue.position.flatIndex side) 1 w.grid
      ⟨clue, { w with grid }, clue.id, flaws ++ clash.toList.map Problem.letterClash⟩

def checkClue (side : Nat) (d : Direction) (w : Walk) (last : Nat) (clue : Clue) : Step :=
  if clue.id = 0 then ⟨clue, w, last, [.nonPositiveId]⟩
  else
    let w := { w with maxId := max w.maxId clue.id }
    if clue.id ≤ last then ⟨clue, w, last, [.idOutOfSequence]⟩
    else
      match positionProblem? side clue.position with
      | some problem => ⟨clue, w, last, [problem]⟩
      | none =>
        match w.starts.get? clue.id with
        | some other =>
          if other.position = clue.position then placeAnswer side d w last clue
          else ⟨clue, w, last, [.sharedIdClash]⟩
        | none => placeAnswer side d { w with starts := w.starts.insert clue.id clue } last clue

-- The clues of one direction.
def walkClues (side : Nat) (d : Direction) : (w : Walk) → (last : Nat) → List Clue →
    List Clue × Walk × List Puzzle.Error
  | w, _, [] => ([], w, [])
  | w, last, clue :: rest =>
    let step := checkClue side d w last clue
    let errors := step.problems.map fun problem => Puzzle.Error.clue problem d clue.source
    let (clues, w, more) := walkClues side d step.walk step.last rest
    (step.clue :: clues, w, errors ++ more)

-- One id that does not start behind the one before it.
def misplaced? (side : Nat) : (Nat × Clue) × (Nat × Clue) → Option Puzzle.Error
  | ((previous, p), (id, c)) =>
    if p.position.ordinal side < c.position.ordinal side then none
    else if c.position.y < p.position.y then some (.startsAbove id previous)
    else if c.position = p.position then some (.sameStart id previous)
    else some (.startsLeftOf id previous)

def firstMisplaced? (side : Nat) (starts : Table Clue) : Option Puzzle.Error :=
  (starts.entries.zip starts.entries.tail).findSome? (misplaced? side)

def missingIds (w : Walk) : List Nat :=
  (List.range' 1 w.maxId).filter fun id => !w.starts.contains id

-- The checks on the ids as a whole are made only if nothing has failed before, and the order of
-- the starts only if no id is missing.
def numberingErrors (side : Nat) (w : Walk) : List Puzzle.Error :=
  match missingIds w with
  | [] => (firstMisplaced? side w.starts).toList
  | missing => missing.map Puzzle.Error.missingId

namespace Puzzle

def validate (p : Puzzle) : Puzzle :=
  let side := p.dimensions.side
  let noClues := if p.clues.across.isEmpty && p.clues.down.isEmpty then [Error.noClues] else []
  let (across, w, acrossErrors) := walkClues side .across (Walk.start side) 0 p.clues.across
  let (down, w, downErrors) := walkClues side .down w 0 p.clues.down
  let errors := p.errors ++ noClues ++ acrossErrors ++ downErrors
  let errors := if errors.isEmpty then numberingErrors side w else errors
  { p with
    clues := ⟨across, down⟩
    errors
    side := some side
    grid := some w.grid
    starts := w.starts
    answers := some w.answers }

end Puzzle

end Cruciverb
