import Cruciverb.Puzzle.Problem
import Cruciverb.Table

namespace Cruciverb

-- A clue as it is written on one line.
structure ClueLine where
  position : Coord
  id : Nat
  body : String
  answer : String
  deriving DecidableEq, Repr

def ClueLine.text (line : ClueLine) : String :=
  "- " ++ line.position.text ++ " " ++ toString line.id ++ ". " ++ line.body ++
    " (" ++ line.answer ++ ")"

structure Clue extends ClueLine where
  -- the line it was read from, quoted in reports
  source : String
  -- the rest is found when the puzzle is checked
  numeric : Option String
  letters : Option String
  wordLengths : List Nat
  deriving DecidableEq, Repr

namespace Clue

def ofLine (line : ClueLine) (source : String) : Clue := ⟨line, source, none, none, []⟩

-- The lengths of the answer's words, or the answer itself while they are not known.
def numericOrAnswer (clue : Clue) : String := clue.numeric.getD clue.answer

end Clue

-- The metadata that a line of its own can set.
inductive Field where
  | version
  | name
  | author
  | editor
  | copyright
  | publisher
  | pubdate
  deriving DecidableEq, Repr

namespace Field

def key : Field → String
  | .version => "version"
  | .name => "name"
  | .author => "author"
  | .editor => "editor"
  | .copyright => "copyright"
  | .publisher => "publisher"
  | .pubdate => "pubdate"

end Field

-- The character of a cell that no answer has filled.
def blankCell : Char := ' '

structure Puzzle where
  version : String := "standard v1"
  name : Option String := none
  author : String := ""
  editor : String := "Colin Inman"
  publisher : String := "Financial Times"
  copyright : String := "2017, Financial Times"
  -- no date, so that a regenerated text leaves the line out
  pubdate : String := "today"
  dimensions : Dimensions := .seventeen
  clues : Both (List Clue) := ⟨[], []⟩
  -- a puzzle is valid as long as there is none
  errors : List Puzzle.Error := []
  -- the text that was read line by line
  source : String := ""
  -- the rest is found when the puzzle is checked
  side : Option Nat := none
  -- the rows one behind the other
  grid : Option (List Char) := none
  -- each id with the first clue that has it
  starts : Table Clue := .empty
  answers : Option (Both (List String)) := none

namespace Puzzle

def ofErrors (errors : List Error) : Puzzle := { errors }

def Valid (p : Puzzle) : Prop := p.errors = []

instance (p : Puzzle) : Decidable p.Valid := inferInstanceAs (Decidable (_ = _))

def messages (p : Puzzle) : List String := p.errors.map Error.message

def setField (field : Field) (value : String) (p : Puzzle) : Puzzle :=
  match field with
  | .version => { p with version := value }
  | .name => { p with name := some value }
  | .author => { p with author := value }
  | .editor => { p with editor := value }
  | .copyright => { p with copyright := value }
  | .publisher => { p with publisher := value }
  | .pubdate => { p with pubdate := value }

def field? (p : Puzzle) : Field → Option String
  | .version => some p.version
  | .name => p.name
  | .author => some p.author
  | .editor => some p.editor
  | .copyright => some p.copyright
  | .publisher => some p.publisher
  | .pubdate => some p.pubdate

@[simp] theorem field?_setField (field : Field) (value : String) (p : Puzzle) :
    (p.setField field value).field? field = some value := by
  cases field <;> rfl

theorem field?_setField_of_ne {field other : Field} (value : String) (p : Puzzle)
    (h : other ≠ field) : (p.setField field value).field? other = p.field? other := by
  cases field <;> cases other <;> first | rfl | exact absurd rfl h

def addClue (direction : Direction) (clue : Clue) (p : Puzzle) : Puzzle :=
  { p with clues := p.clues.modify direction (· ++ [clue]) }

-- The letter of a cell, if there is one. A side that was not taken from the puzzle's own dimensions may
-- be so large that the machine stops at the index.
def cell? (p : Puzzle) (c : Coord) : Option (Option Char) :=
  match p.side with
  | none => some none
  | some side =>
    if c.Within side then
      (Machine.flatIndex side c).map fun i => p.grid.bind fun cells => cells[i]?
    else some none

-- Every answer letter, across first.
def allLetters (answers : Both (List String)) : List Char :=
  (answers.across ++ answers.down).flatMap String.toList

end Puzzle

end Cruciverb
