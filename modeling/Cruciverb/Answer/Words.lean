import Cruciverb.Answer.Format

namespace Cruciverb.Answer

open Cruciverb.Text

-- The placeholder for a letter that is not known.
def star : Char := '*'

def isCapital (c : Char) : Bool := 'A' ≤ c && c ≤ 'Z'

def isLettered (answer : List Char) : Bool :=
  !answer.isEmpty && answer.all fun c => isCapital c || c == star || isSeparator c

def isStarred (answer : List Char) : Bool :=
  !answer.isEmpty && answer.all fun c => c == star || isSeparator c

-- An empty piece has no length to write.
def writeLength (piece : List Char) : List Char :=
  if piece.isEmpty then [] else (toString piece.length).toList

-- The lengths of the words in place of letters; any other answer is left as it is.
def lengthsOnly (answer : List Char) : List Char :=
  if isLettered answer then ((split answer).map writeLength).text else answer

-- What is wrong with one word of an answer.
inductive Flaw where
  | zeroLength
  | emptyWord
  deriving DecidableEq, Repr

-- Longer words do not fit in any grid, so nothing is gained by writing them out.
def longestWord : Nat := 1024

-- A length stands for that many placeholders.
def expand (piece : List Char) : List Char :=
  if isNumeral piece then List.replicate (min (Nat.ofDigitChars 10 piece 0) longestWord) star
  else piece

def flaw? (piece : List Char) : Option Flaw :=
  if isNumeral piece then
    if Nat.ofDigitChars 10 piece 0 = 0 then some .zeroLength else none
  else if piece.isEmpty then some .emptyWord
  else none

structure Unpacked where
  answer : List Char
  numeric : List Char
  words : List (List Char)
  flaws : List Flaw
  deriving DecidableEq

-- An answer of placeholders alone is kept as its lengths, so that two ways to write a puzzle
-- without answers come to the same.
def unpack (answer : List Char) : Unpacked :=
  let numeric := lengthsOnly answer
  let answer := if isStarred answer then numeric else answer
  let pieces := (split answer).parts
  ⟨answer, numeric, pieces.map expand, pieces.filterMap flaw?⟩

namespace Unpacked

def letters (u : Unpacked) : List Char := u.words.flatten

def wordLengths (u : Unpacked) : List Nat := u.words.map List.length

end Unpacked

end Cruciverb.Answer
