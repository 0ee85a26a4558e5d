import Cruciverb.Puzzle.Basic
import Cruciverb.Text.Line
import Cruciverb.Text.Caseless
import Cruciverb.Text.DecimalDigit

namespace Cruciverb

open Cruciverb.Text

inductive Line where
  -- blank, a rule, or a key that a site generator has left in the file
  | ignored
  | field (field : Field) (value : String)
  | size (dimensions : Dimensions)
  | grouping (direction : Direction)
  | clue (line : ClueLine)
  | unrecognised
  deriving DecidableEq, Repr

namespace Line

def isFrontMatter (cs : List Char) : Bool :=
  ["layout:", "tag:", "tags:", "permalink:"].any fun key =>
    match dropWord? id key.toList cs with
    | some (c :: _) => isBlank c
    | _ => false

def dropColon (cs : List Char) : List Char :=
  match cs with
  | ':' :: rest => rest
  | _ => cs

-- A value behind at least one blank; it stays on its line. Where only blanks are left, the last of
-- them is the value.
def spacedValue? (cs : List Char) : Option (List Char) :=
  let blanks := cs.takeWhile isBlank
  let value := cs.dropWhile isBlank
  if value.isEmpty then
    match blanks.reverse with
    | last :: _ :: _ => if last = '\n' then none else some [last]
    | _ => none
  else if blanks.isEmpty || value.contains '\n' then none
  else some value

def fieldKeys : List (List Char × Field) := [
  ("version".toList, .version),
  ("name".toList, .name),
  ("title".toList, .name),
  ("author".toList, .author),
  ("editor".toList, .editor),
  ("copyright".toList, .copyright),
  ("publisher".toList, .publisher)]

def field? (cs : List Char) : Option (Field × List Char) :=
  match dropAnyWord? Char.toLower fieldKeys cs with
  | some (key, rest) => (spacedValue? (dropColon rest)).map (key, ·)
  | none => none

-- Four, two and two digits of any script.
def isDateShape (cs : List Char) : Bool :=
  match cs with
  | [y, y', y'', y''', '/', m, m', '/', d, d'] =>
    [y, y', y'', y''', m, m', d, d'].all isDecimalDigit
  | _ => false

def pubdate? (cs : List Char) : Option (List Char) :=
  match dropWord? Char.toLower "pubdate".toList cs with
  | some rest =>
    match spacedValue? (dropColon rest) with
    | some value => if isDateShape value then some value else none
    | none => none
  | none => none

def sizeKeys : List (List Char × Unit) := [("size".toList, ()), ("dimensions".toList, ())]

def size? (cs : List Char) : Option Dimensions :=
  match dropAnyWord? fold sizeKeys cs with
  | some (_, rest) =>
    match spacedValue? (dropColon rest) with
    | some value => Dimensions.ofText? (String.ofList value)
    | none => none
  | none => none

def groupingKeys : List (List Char × Direction) :=
  [("across".toList, .across), ("down".toList, .down)]

def grouping? (cs : List Char) : Option Direction :=
  match dropAnyWord? Char.toLower groupingKeys cs with
  | some (direction, rest) => if (dropColon rest).isEmpty then some direction else none
  | none => none

-- The text before the last opening parenthesis and the text between it and the closing one that
-- ends the line.
def lastGroup? (cs : List Char) : Option (List Char × List Char) :=
  match cs.reverse with
  | ')' :: back =>
    match back.dropWhile (· ≠ '(') with
    | _ :: before => some (before.reverse, (back.takeWhile (· ≠ '(')).reverse)
    | [] => none
  | _ => none

-- The body of a clue, with the blanks on its two sides, of which there must be some. The body is
-- as long as it can be, so that all blanks but one at the end belong to it; it holds no line feed.
-- Where there are only blanks, one of them is the body.
def body? (cs : List Char) : Option (List Char) :=
  let inner := cs.dropWhile isBlank
  if (cs.takeWhile isBlank).isEmpty then none
  else if inner.isEmpty then (cs.tail.dropLast.reverse.find? (· ≠ '\n')).map ([·])
  else
    let body := inner.dropLast.takeWhile (· ≠ '\n')
    if (inner.drop body.length).all isBlank then some body else none

def isAnswer (cs : List Char) : Bool :=
  Answer.isLettered cs ||
    !cs.isEmpty && cs.all fun c => c.isDigit || Answer.isSeparator c

-- What comes before the body: the place and the number.
def clueHead? (cs : List Char) : Option (Coord × Nat × List Char) :=
  match cs with
  | '-' :: blank :: '(' :: cs =>
    if isBlank blank then
      match spanDigits cs with
      | (x, ',' :: cs) =>
        match spanDigits cs with
        | (y, ')' :: cs) =>
          if (cs.takeWhile isBlank).isEmpty then none
          else
            match spanDigits (cs.dropWhile isBlank) with
            | (id, '.' :: rest) =>
              match readNumeral? wordLimit x, readNumeral? wordLimit y, readNumeral? idLimit id with
              | some x, some y, some id => some (⟨x, y⟩, id, rest)
              | _, _, _ => none
            | _ => none
        | _ => none
      | _ => none
    else none
  | _ => none

def clue? (cs : List Char) : Option ClueLine :=
  match clueHead? cs with
  | some (position, id, rest) =>
    match lastGroup? rest with
    | some (before, answer) =>
      if isAnswer answer then
        (body? before).map fun body => ⟨position, id, String.ofList body, String.ofList answer⟩
      else none
    | none => none
  | none => none

-- For a line without its comment and the blanks around it.
def read (cs : List Char) : Line :=
  if cs.isEmpty || cs == "---".toList || isFrontMatter cs then .ignored
  else
    match field? cs with
    | some (key, value) => .field key (String.ofList value)
    | none =>
      match pubdate? cs with
      | some value => .field .pubdate (String.ofList value)
      | none =>
        match size? cs with
        | some dimensions => .size dimensions
        | none =>
          match grouping? cs with
          | some direction => .grouping direction
          | none =>
            match clue? cs with
            | some line => .clue line
            | none => .unrecognised

end Line

end Cruciverb
