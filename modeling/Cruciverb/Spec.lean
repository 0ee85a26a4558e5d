import Cruciverb.Json.Printer
import Cruciverb.Puzzle.Basic

namespace Cruciverb

structure SpecClue where
  id : Nat
  -- the body with the lengths behind it
  text : String
  wordLengths : List Nat
  numeric : String
  deriving DecidableEq, Repr

structure Spec where
  name : Option String
  author : String
  editor : String
  copyright : String
  publisher : String
  date : String
  side : Nat
  -- `X` for a cell that an answer fills, `.` for any other
  grid : List (List Char)
  -- the id where a clue starts, 0 elsewhere
  gridnums : List (List Nat)
  clues : Both (List SpecClue)
  answers : Option (Both (List String))
  deriving DecidableEq

-- Rows of `n` entries; the last may be short. There is no cutting into rows of none.
def rowsOf {α : Type} (n : Nat) (cells : List α) : List (List α) :=
  if n = 0 then []
  else (List.range ((cells.length + n - 1) / n)).map fun y => (cells.drop (y * n)).take n

namespace Spec

def mark (c : Char) : Char := if c = blankCell then '.' else 'X'

def clue (c : Clue) : SpecClue where
  id := c.id
  text := c.body ++ " (" ++ c.numericOrAnswer ++ ")"
  wordLengths := c.wordLengths
  numeric := c.numericOrAnswer

-- Answers that are all X, or all placeholders, say nothing.
def isSilent (answers : Both (List String)) : Bool :=
  let letters := Puzzle.allLetters answers
  !letters.isEmpty && (letters.all (· == 'X') || letters.all (· == Answer.star))

-- Where two ids start at one place, the larger is shown.
def numberAt (starts : Table Clue) (c : Coord) : Nat :=
  ((starts.entries.reverse.find? fun e => e.2.position == c).map (·.1)).getD 0

def numberRows (side : Nat) (starts : Table Clue) : List (List Nat) :=
  (List.range' 1 side).map fun y => (List.range' 1 side).map fun x => numberAt starts ⟨x, y⟩

def ofPuzzle (p : Puzzle) : Spec :=
  let side := p.side.getD p.dimensions.side
  let cells := p.grid.getD (List.replicate (side * side) blankCell)
  { name := p.name
    author := p.author
    editor := p.editor
    copyright := p.copyright
    publisher := p.publisher
    date := p.pubdate
    side
    grid := (rowsOf side cells).map (·.map mark)
    gridnums := numberRows side p.starts
    clues := p.clues.map (·.map clue)
    answers := p.answers.filter fun answers => !isSilent answers }

def withoutAnswers (s : Spec) : Spec := { s with answers := none }

def clueJson (c : SpecClue) : Json :=
  .array [.nat c.id, .string c.text, .array (c.wordLengths.map Json.nat), .string c.numeric]

def bothJson {α : Type} (f : α → Json) (b : Both (List α)) : Json :=
  .object [("across", .array (b.across.map f)), ("down", .array (b.down.map f))]

def optional (key : String) (value : Option Json) : List (String × Json) :=
  (value.map (key, ·)).toList

-- The name serves as the id of the puzzle too.
def toJson (s : Spec) : Json :=
  .object <|
    optional "name" (s.name.map .string) ++
    [("author", .string s.author),
      ("editor", .string s.editor),
      ("copyright", .string s.copyright),
      ("publisher", .string s.publisher),
      ("date", .string s.date),
      ("size", .object [("rows", .nat s.side), ("cols", .nat s.side)]),
      ("grid", .array (s.grid.map fun row => .array (row.map fun c => .string c.toString))),
      ("gridnums", .array (s.gridnums.map fun row => .array (row.map Json.nat))),
      ("clues", bothJson clueJson s.clues)] ++
    optional "answers" (s.answers.map (bothJson .string)) ++
    [("notepad", .string "")] ++
    optional "id" (s.name.map .string)

def text (s : Spec) : String := s.toJson.compact

end Spec

end Cruciverb
