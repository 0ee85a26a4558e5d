import Cruciverb.Puzzle.Validation

namespace Cruciverb.Machine

open Cruciverb.Answer

-- A letter that is put into a cell.
structure Stroke where
  cell : Nat
  letter : Char
  deriving DecidableEq, Repr

-- Writes the letters from the one with number `i` on, counted from 0.
def writeLetters (step origin : Nat) : (letters : List Char) → (i : Nat) → (grid : List Char) →
    Option ((List Char × Option Nat) × List Stroke)
  | [], _, grid => some ((grid, none), [])
  | letter :: rest, i, grid => do
    let offset ← mul i step
    let index ← add origin offset
    let cell ← grid[index]?
    if cell = blankCell then
      let (written, strokes) ← writeLetters step origin rest (i + 1) (grid.set index letter)
      some (written, ⟨index, letter⟩ :: strokes)
    else if cell = letter then writeLetters step origin rest (i + 1) grid
    else
      let number ← add i 1
      some ((grid, some number), [])

def placeAnswer (side : Nat) (d : Direction) (w : Walk) (last : Nat) (clue : Clue) :
    Option (Step × List Stroke) := do
  let unpacked := unpack clue.answer.toList
  let letters := unpacked.letters
  let flaws := unpacked.flaws.map Problem.word
  let clue := { clue with
    answer := String.ofList unpacked.answer
    numeric := some (String.ofList unpacked.numeric)
    letters := some (String.ofList letters) }
  if side < letters.length then some (⟨clue, w, last, flaws ++ [.answerTooLong]⟩, [])
  else
    let clue := { clue with wordLengths := unpacked.wordLengths }
    let w := { w with answers := w.answers.modify d (· ++ [String.ofList letters]) }
    let behind ← add letters.length (clue.position.along d)
    let final ← sub behind 1
    if side < final then some (⟨clue, w, last, flaws ++ [.answerOverflows]⟩, [])
    else
      let origin ← flatIndex side clue.position
      let ((grid, clash), strokes) ← writeLetters (d.step side) origin letters 0 w.grid
      some (⟨clue, { w with grid }, clue.id, flaws ++ clash.toList.map Problem.letterClash⟩, strokes)

def checkClue (side : Nat) (d : Direction) (w : Walk) (last : Nat) (clue : Clue) :
    Option (Step × List Stroke) :=
  if clue.id = 0 then some (⟨clue, w, last, [.nonPositiveId]⟩, [])
  else
    let w := { w with maxId := max w.maxId clue.id }
    if clue.id ≤ last then some (⟨clue, w, last, [.idOutOfSequence]⟩, [])
    else
      match positionProblem? side clue.position with
      | some problem => some (⟨clue, w, last, [problem]⟩, [])
      | none =>
        match w.starts.get? clue.id with
        | some other =>
          if other.position = clue.position then placeAnswer side d w last clue
          else some (⟨clue, w, last, [.sharedIdClash]⟩, [])
        | none => placeAnswer side d { w with starts := w.starts.insert clue.id clue } last clue

-- The strokes of each clue are listed by themselves.
def walkClues (side : Nat) (d : Direction) : (w : Walk) → (last : Nat) → List Clue →
    Option ((List Clue × Walk × List Puzzle.Error) × List (List Stroke))
  | w, _, [] => some (([], w, []), [])
  | w, last, clue :: rest => do
    let (step, strokes) ← checkClue side d w last clue
    let errors := step.problems.map fun problem => Puzzle.Error.clue problem d clue.source
    let ((clues, w, more), others) ← walkClues side d step.walk step.last rest
    some ((step.clue :: clues, w, errors ++ more), strokes :: others)

-- The first of the pairs that are out of order. No pair behind it is looked at.
def firstMisplaced (side : Nat) : List ((Nat × Clue) × (Nat × Clue)) → Option (Option Puzzle.Error)
  | [] => some none
  | ((previous, p), (id, c)) :: rest => do
    let place ← ordinal side c.position
    let before ← ordinal side p.position
    if before < place then firstMisplaced side rest
    else if c.position.y < p.position.y then some (some (.startsAbove id previous))
    else if c.position = p.position then some (some (.sameStart id previous))
    else some (some (.startsLeftOf id previous))

def numberingErrors (side : Nat) (w : Walk) : Option (List Puzzle.Error) :=
  match missingIds w with
  | [] => (firstMisplaced side (w.starts.entries.zip w.starts.entries.tail)).map Option.toList
  | missing => some (missing.map Puzzle.Error.missingId)

def validate (p : Puzzle) : Option (Puzzle × List (List Stroke)) := do
  let side := p.dimensions.side
  let noClues :=
    if p.clues.across.isEmpty && p.clues.down.isEmpty then [Puzzle.Error.noClues] else []
  let ((across, w, acrossErrors), acrossStrokes) ←
    walkClues side .across (Walk.start side) 0 p.clues.across
  let ((down, w, downErrors), downStrokes) ← walkClues side .down w 0 p.clues.down
  let errors := p.errors ++ noClues ++ acrossErrors ++ downErrors
  let errors ← if errors.isEmpty then numberingErrors side w else some errors
  some ({ p with
    clues := ⟨across, down⟩
    errors
    side := some side
    grid := some w.grid
    starts := w.starts
    answers := some w.answers }, acrossStrokes ++ downStrokes)

end Cruciverb.Machine
