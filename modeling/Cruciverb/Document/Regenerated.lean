import Cruciverb.Document.Basic
import Cruciverb.Document.Line

namespace Cruciverb

namespace Puzzle

-- In the order in which they are written.
def fieldOrder : List Field :=
  [.version, .name, .author, .editor, .copyright, .publisher, .pubdate]

-- Whether the line would set the same field when it is read.
def readsBack (field : Field) (value : String) : Bool :=
  match Line.read (Document.fieldLine (field.key, value)).toList with
  | .field other _ => other == field
  | _ => false

-- The fields worth a line; an empty author and a date that is none are left out.
def writtenFields (p : Puzzle) : List (String × String) :=
  fieldOrder.filterMap fun field =>
    match p.field? field with
    | some value => if readsBack field value then some (field.key, value) else none
    | none => none

def document (p : Puzzle) (withAnswers : Bool) : Document where
  fields := p.writtenFields ++ [("size", p.dimensions.text)]
  clues := p.clues.map fun clues => clues.map fun clue =>
    { clue.toClueLine with answer := if withAnswers then clue.answer else clue.numericOrAnswer }

def rule : String := "---"

def notes : List String := [
  "",
  "Notes on the text format...",
  "Can't use square brackets or speech marks.",
  "A clue has the form",
  "- (COORDINATES) ID. Clue text (ANSWER)",
  "Coordinates of clue in grid are (across,down), so (1,1) = top left, (17,17) = bottom right.",
  "ID is a number, followed by a full stop.",
  "(WORDS,IN,ANSWER): capitalised, and separated by commas or hyphens, or (numbers) separated by commas or hyphens.",
  "ANSWERS with all words of ***** are converted to numbers."]

def regenerated (p : Puzzle) (withAnswers : Bool) : String :=
  "\n".intercalate
    ([rule] ++ (p.document withAnswers).lines ++ notes.map ("# " ++ ·) ++ [rule])

end Puzzle

end Cruciverb
