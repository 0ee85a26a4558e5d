import Cruciverb.Answer.Words
import Cruciverb.Grid.Coord

namespace Cruciverb

-- What is wrong with one clue. Only flaws of single words let the other checks go on.
inductive Problem where
  | nonPositiveId
  | idOutOfSequence
  | xTooLarge
  | yTooLarge
  | xTooSmall
  | yTooSmall
  | sharedIdClash
  | word (flaw : Answer.Flaw)
  | answerTooLong
  | answerOverflows
  -- letters are counted from 1
  | letterClash (letter : Nat)
  deriving DecidableEq, Repr

def Problem.message : Problem → String
  | .nonPositiveId => "id must be positive"
  | .idOutOfSequence => "id out of sequence"
  | .xTooLarge => "x coord too large"
  | .yTooLarge => "y coord too large"
  | .xTooSmall => "x coord too small"
  | .yTooSmall => "y coord too small"
  | .sharedIdClash => "shared id clashes with previous coordinates"
  | .word .zeroLength => "answer contains a word size of 0"
  | .word .emptyWord => "answer contains an empty word"
  | .answerTooLong => "answer too long for crossword"
  | .answerOverflows => "answer too long for crossword from that coord"
  | .letterClash letter => "letter " ++ toString letter ++ " clashes with previous clues"

namespace Puzzle

inductive Error where
  | noGrouping
  | unparseableLine (line : String)
  | noClues
  | clue (problem : Problem) (direction : Direction) (line : String)
  | missingId (id : Nat)
  | startsAbove (id previous : Nat)
  | sameStart (id previous : Nat)
  | startsLeftOf (id previous : Nat)
  -- found before there was a puzzle to look at
  | reported (message : String)
  deriving DecidableEq, Repr

def Error.message : Error → String
  | .noGrouping => "ERROR: clue specified but no 'across' or 'down' grouping specified"
  | .unparseableLine line => "ERROR: couldn't parse line: " ++ line
  | .noClues => "Error: no valid clues specified"
  | .clue problem direction line =>
    "Error: " ++ problem.message ++ " in " ++ direction.name ++ " clue=" ++ line
  | .missingId id => "Error: missing clue with id=" ++ toString id
  | .startsAbove id previous =>
    "Error: clue " ++ toString id ++ " starts above clue " ++ toString previous
  | .sameStart id previous =>
    "Error: clue " ++ toString id ++ " starts at same coords as clue " ++ toString previous
  | .startsLeftOf id previous =>
    "Error: clue " ++ toString id ++ " starts to the left of clue " ++ toString previous
  | .reported message => message

end Puzzle

end Cruciverb
