import Cruciverb.Answer.Format
import Cruciverb.Document.Basic
import Cruciverb.Document.Line
import Cruciverb.Import.Error
import Cruciverb.Import.Settings
import Cruciverb.Text.WordCharacter

namespace Cruciverb.Import

open Cruciverb.Answer Cruciverb.Text

-- What may stand between the two words of the marker.
def isMarkerGap (c : Char) : Bool := isBlank c || c == '_' || c == '-'

def endsWord (cs : List Char) : Bool :=
  match cs with
  | [] => true
  | c :: _ => !isWordCharacter c

def startsWithMarker (cs : List Char) : Bool :=
  match dropWord? fold "quick".toList cs with
  | none => false
  | some rest =>
    match dropWord? fold "slow".toList (rest.dropWhile isMarkerGap) with
    | none => false
    | some rest => endsWord rest

-- `fresh` says that only blanks have been passed since the last line feed, or since the front.
def hasMarkerFrom : (fresh : Bool) → List Char → Bool
  | _, [] => false
  | fresh, c :: cs =>
    (fresh && startsWithMarker (c :: cs)) || hasMarkerFrom (c == '\n' || fresh && isBlank c) cs

-- Whether the marker is the first thing in the text or behind a line feed.
def hasMarker (cs : List Char) : Bool := hasMarkerFrom true cs

namespace QuickSlow

structure Listed where
  id : Nat
  text : String
  format : Format
  deriving DecidableEq

def dropStop (cs : List Char) : List Char :=
  match cs with
  | '.' :: rest => rest
  | _ => cs

-- The text of a clue between its number and its format. Blanks at its ends are not part of it,
-- unless there is nothing else.
def clueText? (cs : List Char) : Option (List Char) :=
  (Line.spacedValue? cs).map fun value => if value.all isBlank then value else trimEnd value

def format? (inner : List Char) : Option Format :=
  if (split inner).parts.all isNumeral then (Format.read inner).toOption else none

-- A number, the text, and the format in parentheses.
def clue? (line : List Char) : Option Listed :=
  let (digits, rest) := spanDigits line
  match readNumeral? idLimit digits, Line.lastGroup? (dropStop rest) with
  | some id, some (before, inner) =>
    match clueText? before, format? inner with
    | some text, some format => some ⟨id, String.ofList text, format⟩
    | _, _ => none
  | _, _ => none

-- What the lines of a list come to.
structure ClueList where
  fields : List (Field × String)
  clues : Both (List Listed)

def ClueList.empty : ClueList := ⟨[], ⟨[], []⟩⟩

-- The marker is passed over, and so is a size. A line that is a clue of a document is none here.
def readLines : (grouping : Option Direction) → List (List Char) → ClueList → Except Error ClueList
  | _, [], list => .ok list
  | grouping, line :: rest, list =>
    if hasMarker line then readLines grouping rest list
    else
      match Line.read line with
      | .ignored | .size _ => readLines grouping rest list
      | .field field value =>
        readLines grouping rest { list with fields := list.fields ++ [(field, value)] }
      | .grouping direction => readLines (some direction) rest list
      | .clue _ | .unrecognised =>
        match clue? line with
        | none => .error (.unparseableQuickSlowLine (String.ofList line))
        | some clue =>
          match grouping with
          | none => .error (.quickSlowNoGrouping (String.ofList line))
          | some d =>
            readLines grouping rest { list with clues := list.clues.modify d (· ++ [clue]) }

-- The clue at its place in the template.
def place (t : Template) (numbering : Table NumberedCell) (d : Direction) (clue : Listed) :
    Except Failure ClueLine :=
  match numbering.get? clue.id with
  | none => .error (.refused (.templateMissingSlot t.name d clue.id))
  | some cell =>
    match cell.starts.get d with
    | none => .error (.refused (.templateMissingSlot t.name d clue.id))
    | some slot =>
      match clue.format.total? with
      | none => .error (.fault .overflow)
      | some total =>
        if slot.length = total then
          .ok ⟨cell.position, clue.id, clue.text, String.ofList clue.format.text⟩
        else .error (.refused (.templateLengthMismatch t.name d clue.id slot.length total))

def placeAll (t : Template) (numbering : Table NumberedCell) (d : Direction) :
    List Listed → Except Failure (List ClueLine)
  | [] => .ok []
  | clue :: rest =>
    match place t numbering d clue with
    | .error e => .error e
    | .ok line =>
      match placeAll t numbering d rest with
      | .error e => .error e
      | .ok lines => .ok (line :: lines)

def documentFields (settings : Settings) (t : Template) (fields : List (Field × String)) :
    List (String × String) :=
  let size := toString t.size ++ "x" ++ toString t.size
  fields.map (fun (field, value) => (field.key, value)) ++ [("size", size)] ++
    if fields.any (·.1 == Field.pubdate) then [] else [(Field.pubdate.key, settings.pubdate)]

def document (settings : Settings) (list : ClueList) : Except Failure Document :=
  let ids := list.clues.across.map (·.id)
  match Template.findByAcross? settings.templates ids with
  | none => .error (.refused (.noMatchingTemplate ids))
  | some t =>
    match placeAll t t.numbering .across list.clues.across with
    | .error e => .error e
    | .ok across =>
      match placeAll t t.numbering .down list.clues.down with
      | .error e => .error e
      | .ok down => .ok ⟨documentFields settings t list.fields, ⟨across, down⟩⟩

end QuickSlow

-- The document of a quick-slow list.
def fromQuickSlow (settings : Settings) (text : String) : Except Failure Document :=
  match QuickSlow.readLines none (cleanLines text.toList) .empty with
  | .error e => .error (.refused e)
  | .ok list => QuickSlow.document settings list

end Cruciverb.Import
