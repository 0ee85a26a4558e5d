import Cruciverb.Answer.Format
import Cruciverb.Document.Basic
import Cruciverb.Document.Line
import Cruciverb.Import.Error
import Cruciverb.Import.Settings
import Cruciverb.Json.Printer
import Cruciverb.Json.Reader
import Cruciverb.Text.Case

namespace Cruciverb.Import

open Cruciverb.Answer Cruciverb.Text

def invalid {α : Type} (field reason : String) : Except Error α := .error (.invalidField field reason)

-- In the order in which they are missed.
def requiredFields : List String :=
  ["author", "editor", "publisher", "copyright", "date", "size", "grid", "gridnums", "clues"]

def stringField (spec : Json) (field : String) : Except Error String :=
  match spec.member? field with
  | none => .error (.missingField field)
  | some v =>
    match v.asString? with
    | some s => .ok s
    | none => invalid field "expected a string"

def arrayItems (v : Json) (field : String) : Except Error (List Json) :=
  match v.asArray? with
  | some items => .ok items
  | none => invalid field "expected an array"

-- The numbered cells of one row.
def rowNumbers (y : Nat) : (x : Nat) → List Json → Except Error (List (Nat × Coord))
  | _, [] => .ok []
  | x, cell :: rest =>
    match cell.asNat? with
    | none => invalid "gridnums" ("non-integer entry " ++ cell.compact)
    | some id =>
      match rowNumbers y (x + 1) rest with
      | .error e => .error e
      | .ok found => .ok (if id = 0 then found else (id, ⟨x, y⟩) :: found)

def rowsNumbers : (y : Nat) → List Json → Except Error (List (Nat × Coord))
  | _, [] => .ok []
  | y, row :: rest =>
    match arrayItems row "gridnums" with
    | .error e => .error e
    | .ok cells =>
      match rowNumbers y 1 cells with
      | .error e => .error e
      | .ok found =>
        match rowsNumbers (y + 1) rest with
        | .error e => .error e
        | .ok more => .ok (found ++ more)

-- Where each id stands; the last place counts.
def readGridnums (v : Json) : Except Error (Table Coord) :=
  match arrayItems v "gridnums" with
  | .error e => .error e
  | .ok rows => (rowsNumbers 1 rows).map Table.ofList

structure ListedSpecClue where
  id : Nat
  body : List Char
  lengths : List UInt64
  numeric : Option String

-- The lengths that a spec puts behind a body, with the blanks before them.
def dropTrailingFormat (body : List Char) : List Char :=
  match Line.lastGroup? body with
  | none => body
  | some (before, inner) =>
    let kept := trimEnd before
    if !inner.isEmpty && inner.all (fun c => c.isDigit || isSeparator c) &&
        kept.length < before.length then kept
    else body

-- Anything among the lengths that is no length is left out.
def readLengthItems (items : List Json) : List UInt64 :=
  items.filterMap fun v => v.asNat?.map UInt64.ofNat

def readSpecClue (item : Json) (field : String) : Except Error ListedSpecClue :=
  match arrayItems item field with
  | .error e => .error e
  | .ok parts =>
    match (parts[0]?.bind Json.asNat?).filter (· < idLimit) with
    | none => invalid field ("clue without an integer id: " ++ item.compact)
    | some id =>
      match parts[1]?.bind Json.asString? with
      | none => invalid field ("clue " ++ toString id ++ " has no text")
      | some body =>
        match parts[2]?.bind Json.asArray? with
        | none => invalid field ("clue " ++ toString id ++ " has no word lengths")
        | some lengths =>
          .ok ⟨id, dropTrailingFormat body.toList, readLengthItems lengths,
            parts[3]?.bind Json.asString?⟩

-- The separators of the written format if it has just these lengths, commas otherwise.
def formatOf (lengths : List UInt64) (numeric : Option String) : Format :=
  match numeric with
  | none => Format.ofLengths lengths
  | some s =>
    match Format.ofString s with
    | .ok f => if f.parts = lengths then f else Format.ofLengths lengths
    | .error _ => Format.ofLengths lengths

-- Stands for the letters of a spec without answers.
def unknownLetter : Char := 'X'

-- No text is as long as this.
def textLimit : Nat := 0x8000000000000000

-- The letters of one answer: those given, or as many unknown ones as the lengths ask for.
def answerLetters (d : Direction) (clue : ListedSpecClue) (given : Option Json) :
    Except Failure (List Char) :=
  match Machine.sum clue.lengths with
  | none => .error (.fault .overflow)
  | some expected =>
    match given with
    | none =>
      if expected < textLimit then .ok (List.replicate expected unknownLetter)
      else .error (.fault .tooLarge)
    | some v =>
      match v.asString? with
      | none => refusing (invalid ("answers." ++ d.name) "expected strings")
      | some s =>
        let letters := upper s.toList
        if letters.length = expected then .ok letters
        else .error (.refused (.answerLengthMismatch d clue.id expected letters.length))

def specClueLine (d : Direction) (places : Table Coord) (item : Json) (given : Option Json) :
    Except Failure ClueLine :=
  match readSpecClue item ("clues." ++ d.name) with
  | .error e => .error (.refused e)
  | .ok clue =>
    match answerLetters d clue given with
    | .error e => .error e
    | .ok letters =>
      match places.get? clue.id with
      | none => .error (.refused (.unresolvableId d clue.id))
      | some position =>
        match (formatOf clue.lengths clue.numeric).applied? letters with
        | none => .error (.fault .overflow)
        | some answer => .ok ⟨position, clue.id, String.ofList clue.body, String.ofList answer⟩

-- Each item with the answer at its place in the other list.
def specClueLinesOf (d : Direction) (places : Table Coord) :
    List (Json × Option Json) → Except Failure (List ClueLine)
  | [] => .ok []
  | (item, given) :: rest =>
    match specClueLine d places item given with
    | .error e => .error e
    | .ok line =>
      match specClueLinesOf d places rest with
      | .error e => .error e
      | .ok lines => .ok (line :: lines)

def listedClues (spec : Json) (d : Direction) : Except Error (List Json) :=
  let field := "clues." ++ d.name
  match (spec.member? "clues").bind (·.member? d.name) with
  | none => .error (.missingField field)
  | some v => arrayItems v field

-- One answer for each clue, if there are answers for the direction.
def listedAnswers (spec : Json) (d : Direction) (clues : Nat) :
    Except Error (List (Option Json)) :=
  match (spec.member? "answers").bind (·.member? d.name) with
  | none => .ok (List.replicate clues none)
  | some v =>
    match arrayItems v ("answers." ++ d.name) with
    | .error e => .error e
    | .ok answers =>
      if answers.length = clues then .ok (answers.map some)
      else .error (.answerCountMismatch d clues answers.length)

def specClueLines (spec : Json) (d : Direction) (places : Table Coord) :
    Except Failure (List ClueLine) :=
  match listedClues spec d with
  | .error e => .error (.refused e)
  | .ok clues =>
    match listedAnswers spec d clues.length with
    | .error e => .error (.refused e)
    | .ok answers => specClueLinesOf d places (clues.zip answers)

def trimmed (s : String) : String := String.ofList (trim s.toList)

-- A name that is no text counts as none, and so does a blank one.
def specName (spec : Json) : List (String × String) :=
  let named := (spec.member? "name").or (spec.member? "id")
  match named.bind Json.asString? with
  | none => []
  | some s => if (trim s.toList).isEmpty then [] else [(Field.name.key, trimmed s)]

-- The fields that say something.
def specFields (spec : Json) : List Field → Except Error (List (String × String))
  | [] => .ok []
  | field :: rest =>
    match stringField spec field.key with
    | .error e => .error e
    | .ok s =>
      match specFields spec rest with
      | .error e => .error e
      | .ok more =>
        .ok (if (trim s.toList).isEmpty then more else (field.key, trimmed s) :: more)

-- The date of the spec if a document can have it.
def specDate (date : String) (settings : Settings) : String :=
  match Line.read ("pubdate: " ++ date).toList with
  | .field .pubdate _ => date
  | _ => settings.pubdate

def specRows (spec : Json) : Except Error Nat :=
  match (spec.member? "size").bind (·.member? "rows") |>.bind Json.asNat? with
  | some rows => .ok rows
  | none => invalid "size" "expected an integer size.rows"

-- The fields and the places of the clues.
def specHead (settings : Settings) (spec : Json) :
    Except Error (List (String × String) × Table Coord) :=
  match requiredFields.find? fun field => (spec.member? field).isNone with
  | some field => .error (.missingField field)
  | none =>
    match specRows spec with
    | .error e => .error e
    | .ok rows =>
      match readGridnums ((spec.member? "gridnums").getD .null) with
      | .error e => .error e
      | .ok places =>
        match specFields spec [.author, .editor, .copyright, .publisher] with
        | .error e => .error e
        | .ok fields =>
          match stringField spec "date" with
          | .error e => .error e
          | .ok date =>
            let size := toString rows ++ "x" ++ toString rows
            .ok (specName spec ++ fields ++
              [("size", size), ("pubdate", specDate (trimmed date) settings)], places)

def specDocument (settings : Settings) (spec : Json) : Except Failure Document :=
  match specHead settings spec with
  | .error e => .error (.refused e)
  | .ok (fields, places) =>
    match specClueLines spec .across places with
    | .error e => .error e
    | .ok across =>
      match specClueLines spec .down places with
      | .error e => .error e
      | .ok down => .ok ⟨fields, ⟨across, down⟩⟩

-- The document of a spec in JSON.
def fromLegacySpec (settings : Settings) (text : String) : Except Failure Document :=
  match Json.read? text with
  | none => .error (.refused .malformedJson)
  | some (.object members) => specDocument settings (.object members)
  | some _ => refusing (invalid "(root)" "expected an object")

end Cruciverb.Import
