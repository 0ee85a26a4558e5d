import Cruciverb.Document.Line

namespace Cruciverb

open Cruciverb.Text

namespace Puzzle

-- Clues belong to the direction that was named last.
def readLines : (grouping : Option Direction) → List (List Char) → Puzzle → Puzzle
  | _, [], p => p
  | grouping, cs :: rest, p =>
    match Line.read cs with
    | .ignored => readLines grouping rest p
    | .field field value => readLines grouping rest (p.setField field value)
    | .size dimensions => readLines grouping rest { p with dimensions }
    | .grouping direction => readLines (some direction) rest p
    | .clue line =>
      match grouping with
      | none => { p with errors := p.errors ++ [.noGrouping] }
      | some direction =>
        readLines grouping rest (p.addClue direction (Clue.ofLine line (String.ofList cs)))
    | .unrecognised =>
      readLines grouping rest
        { p with errors := p.errors ++ [.unparseableLine (String.ofList cs)] }

def read (source : String) : Puzzle := readLines none (cleanLines source.toList) { source }

end Puzzle

end Cruciverb
