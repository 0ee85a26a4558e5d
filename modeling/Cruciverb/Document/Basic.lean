import Cruciverb.Puzzle.Basic

namespace Cruciverb

structure Document where
  -- key and value, in the order in which they are written
  fields : List (String × String)
  clues : Both (List ClueLine)
  deriving DecidableEq

namespace Document

def fieldLine (field : String × String) : String := field.1 ++ ": " ++ field.2

def lines (doc : Document) : List String :=
  doc.fields.map fieldLine ++
    Direction.all.flatMap fun d => (d.name ++ ":") :: (doc.clues.get d).map ClueLine.text

def text (doc : Document) : String := "\n".intercalate doc.lines

end Document

end Cruciverb
