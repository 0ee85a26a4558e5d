import Cruciverb.Answer.Format
import Cruciverb.Document.Basic
import Cruciverb.Grid.Access
import Cruciverb.Import.Sequence
import Cruciverb.Import.Settings
import Cruciverb.Text.Case
import Cruciverb.Xml.Tree
import Std.Data.HashSet

namespace Cruciverb.Import

open Cruciverb.Answer Cruciverb.Text Cruciverb.Xml

def rootName : String := "crossword-compiler"

-- Stands for a title or an author that the export leaves out.
def unspecified : String := "UNSPECIFIED"

-- The parts of an export that the rest is read from.
structure Sections where
  metadata : Element
  crossword : Element
  grid : Element
  size : Nat

def firstMissing? (e : Element) (names : List String) : Option String :=
  names.find? fun name => !e.hasChild name

def gridSize (grid : Element) : Except Error Nat := do
  if !grid.hasChild "cell" then throw (.missingElement (grid.path ++ ".cell"))
  let width ← grid.attr "width"
  let height ← grid.attr "height"
  if width ≠ height then throw (.gridNotSquare grid.path width height)
  grid.number wordLimit "width"

def findSections (root : Element) : Except Error Sections := do
  if root.name ≠ rootName then throw (.missingElement rootName)
  let puzzle ← root.child "rectangular-puzzle"
  let metadata ← puzzle.child "metadata"
  let crossword ← puzzle.child "crossword"
  let grid ← crossword.child "grid"
  let size ← gridSize grid
  match firstMissing? crossword ["word", "clues"] with
  | some name => throw (.missingElement (crossword.path ++ "." ++ name))
  | none => return ⟨metadata, crossword, grid, size⟩

-- What the cells that have been read come to.
structure CellTable where
  shape : Shape
  numbers : Table Coord
  seen : Std.HashSet (Nat × Nat)

-- All cells are open before the first of them is read.
def CellTable.start (size : Nat) : Except Failure CellTable :=
  match Shape.open? size with
  | some shape => .ok ⟨shape, .empty, ∅⟩
  | none => .error (.fault (if size * size < wordLimit then .tooLarge else .overflow))

def cellPosition (cell : Element) (size : Nat) : Except Error Coord := do
  let x ← cell.number wordLimit "x"
  let y ← cell.number wordLimit "y"
  if x = 0 ∨ size < x then throw (.invalidAttribute cell.path "x" (toString x))
  if y = 0 ∨ size < y then throw (.invalidAttribute cell.path "y" (toString y))
  return ⟨x, y⟩

-- A block has neither a letter nor a number.
def cellContent (cell : Element) : Cell :=
  if cell.attr? "type" = some "block" then .block
  else .open (((cell.attr? "solution").bind fun s => (trim s.toList).head?).map Char.toUpper)

def cellNumber (cell : Element) : Except Error (Option Nat) :=
  if cell.attr? "type" = some "block" ∨ cell.attr? "number" = none then .ok none
  else (cell.number idLimit "number").map some

-- A cell may be listed again, and the later one counts.
def CellTable.put (t : CellTable) (size : Nat) (cell : Element) : Except Failure CellTable :=
  match cellPosition cell size with
  | .error e => .error (.refused e)
  | .ok c =>
    match t.shape.set? c (cellContent cell) with
    | none => .error (.fault .outsideTable)
    | some shape =>
      match cellNumber cell with
      | .error e => .error (.refused e)
      | .ok number =>
        let numbers := match number with
          | some id => t.numbers.insert id c
          | none => t.numbers
        .ok ⟨shape, numbers, t.seen.insert (c.x, c.y)⟩

def CellTable.putAll (t : CellTable) (size : Nat) : List Element → Except Failure CellTable
  | [] => .ok t
  | cell :: rest =>
    match t.put size cell with
    | .error e => .error e
    | .ok t => t.putAll size rest

-- The first cell, along the rows, that has not been seen; `left` cells are still to be looked at.
def firstUnseen? (size : Nat) (seen : Std.HashSet (Nat × Nat)) : (left : Nat) → Coord →
    Option Coord
  | 0, _ => none
  | left + 1, c =>
    if seen.contains (c.x, c.y) then
      firstUnseen? size seen left (if c.x = size then ⟨1, c.y + 1⟩ else ⟨c.x + 1, c.y⟩)
    else some c

-- The solved grid, and where each number stands.
def readGrid (grid : Element) (size : Nat) : Except Failure (Shape × Table Coord) :=
  match CellTable.start size with
  | .error e => .error e
  | .ok t =>
    match t.putAll size (grid.childrenNamed "cell") with
    | .error e => .error e
    | .ok t =>
      match firstUnseen? size t.seen (size * size) ⟨1, 1⟩ with
      | some c => .error (.refused (.missingCell grid.path c))
      | none => .ok (t.shape, t.numbers)

-- A clue as it is listed.
structure ListedClue where
  number : String
  format : String
  text : String
  deriving DecidableEq, Repr

def trimmedAttr (e : Element) (name : String) : Except Error String :=
  (e.attr name).map fun s => String.ofList (trim s.toList)

def readListedClue (clue : Element) : Except Error ListedClue := do
  let number ← trimmedAttr clue "number"
  let format ← trimmedAttr clue "format"
  if clue.textContent.isEmpty then throw (.missingClueText number)
  return ⟨number, format, clue.textContent⟩

def readListedClues : List Element → Except Error (List ListedClue)
  | [] => .ok []
  | clue :: rest => do
    let listed ← readListedClue clue
    let more ← readListedClues rest
    return listed :: more

-- The title of a group names the direction of its clues.
def groupDirection (group : Element) : Except Error Direction := do
  let title ← group.optionalChild "title"
  let text := (title.map Element.textContent).getD ""
  if text.isEmpty then throw (.missingClueTitle group.path)
  let name := String.ofList (lower text.toList)
  match Direction.ofName? name with
  | some d => return d
  | none => throw (.unrecognisedDirection group.path name)

-- The clues of all groups, in document order for each direction.
def readGroups (listed : Both (List ListedClue)) :
    List Element → Except Error (Both (List ListedClue))
  | [] => .ok listed
  | group :: rest => do
    let d ← groupDirection group
    let clues ← readListedClues (group.childrenNamed "clue")
    readGroups (listed.modify d (· ++ clues)) rest

-- A clue ready to be written; the first clue of a sequence names the others in front of its text.
structure ResolvedClue where
  text : String
  format : String
  sequence : Option String
  deriving DecidableEq, Repr

namespace ResolvedClue

def body (clue : ResolvedClue) : String :=
  match clue.sequence with
  | some others => others ++ ". " ++ clue.text
  | none => clue.text

end ResolvedClue

abbrev ClueTable := Both (Table ResolvedClue)

def ClueTable.put (t : ClueTable) (d : Direction) (id : Nat) (clue : ResolvedClue) : ClueTable :=
  t.modify d (·.insert id clue)

def putPlain (d : Direction) : ClueTable → List ListedClue → Except Error ClueTable
  | t, [] => .ok t
  | t, clue :: rest =>
    if isComposite clue.number.toList then putPlain d t rest
    else
      match Element.readUnsigned? idLimit clue.number.toList with
      | none => .error (.unparseableClueId clue.number)
      | some id => putPlain d (t.put d id ⟨clue.text, clue.format, none⟩) rest

def reference (primary : Nat) (d : Direction) : String :=
  "See " ++ toString primary ++ " " ++ d.name

-- The first answer keeps the text, and every other one points to it.
def memberClues (answers : Table (Starts Nat)) (d : Direction) (primary : Nat)
    (clue : ListedClue) (sequence : List Member) (formats : List Format) :
    List (Member × ResolvedClue) :=
  match sequence.zip formats with
  | [] => []
  | (first, format) :: others =>
    (first, ⟨clue.text, String.ofList format.text, some (prefixText answers sequence)⟩) ::
      others.map fun (m, format) =>
        (m, ⟨reference primary d, String.ofList format.text, none⟩)

def resolveComposite (answers : Table (Starts Nat)) (d : Direction) (clue : ListedClue) :
    Except Error (List (Member × ResolvedClue)) :=
  match CompositeId.read clue.number.toList with
  | .error e => .error e
  | .ok composite =>
    match resolve answers d composite with
    | .error e => .error e
    | .ok sequence =>
      match Format.ofString clue.format with
      | .error _ => .error (.invalidFormat composite.primary d clue.format)
      | .ok whole =>
        match distribute (clue.number ++ " " ++ d.name) whole sequence with
        | .error e => .error e
        | .ok formats =>
          .ok (memberClues answers d composite.primary clue sequence formats)

def putMembers (t : ClueTable) (members : List (Member × ResolvedClue)) : ClueTable :=
  members.foldl (fun t (m, clue) => t.put m.direction m.id clue) t

def putComposites (answers : Table (Starts Nat)) (d : Direction) :
    ClueTable → List ListedClue → Except Error ClueTable
  | t, [] => .ok t
  | t, clue :: rest =>
    if isComposite clue.number.toList then
      match resolveComposite answers d clue with
      | .error e => .error e
      | .ok members => putComposites answers d (putMembers t members) rest
    else putComposites answers d t rest

-- The clues for one answer come first, so that those for several take their places.
def resolveClues (answers : Table (Starts Nat)) (listed : Both (List ListedClue)) :
    Except Error ClueTable := do
  let t ← putPlain .across ⟨.empty, .empty⟩ listed.across
  let t ← putPlain .down t listed.down
  let t ← putComposites answers .across t listed.across
  putComposites answers .down t listed.down

-- The line of the answer that starts at a number in a direction.
def answerLine (t : ClueTable) (id : Nat) (position : Coord) (d : Direction)
    (slot : List Char) : Except Failure ClueLine :=
  match (t.get d).get? id with
  | none => .error (.refused (.missingClue id d))
  | some clue =>
    match Format.ofString clue.format with
    | .error _ => .error (.refused (.invalidFormat id d clue.format))
    | .ok format =>
      match format.total? with
      | none => .error (.fault .overflow)
      | some total =>
        if total = slot.length then
          match format.applied? slot with
          | none => .error (.fault .overflow)
          | some answer => .ok ⟨position, id, clue.body, String.ofList answer⟩
        else .error (.refused (.formatLengthMismatch id d clue.format slot.length))

-- The line of the answer that starts at a number in a direction; none without an answer.
def directionLines (t : ClueTable) (id : Nat) (position : Coord) (starts : Starts (List Char))
    (d : Direction) : Except Failure (List ClueLine) :=
  match starts.get d with
  | none => .ok []
  | some slot =>
    match answerLine t id position d slot with
    | .error e => .error e
    | .ok line => .ok [line]

def numberLines (t : ClueTable) (id : Nat) (position : Coord) (starts : Starts (List Char)) :
    Except Failure (Both (List ClueLine)) :=
  match directionLines t id position starts .across with
  | .error e => .error e
  | .ok across =>
    match directionLines t id position starts .down with
    | .error e => .error e
    | .ok down => .ok ⟨across, down⟩

-- One line for each answer in the grid, by ascending number.
def exportLines (t : ClueTable) (answers : Table (Starts (List Char))) :
    List (Nat × Coord) → Except Failure (Both (List ClueLine))
  | [] => .ok ⟨[], []⟩
  | (id, position) :: rest =>
    match numberLines t id position ((answers.get? id).getD ⟨none, none⟩) with
    | .error e => .error e
    | .ok lines =>
      match exportLines t answers rest with
      | .error e => .error e
      | .ok more => .ok ⟨lines.across ++ more.across, lines.down ++ more.down⟩

def metadataText (metadata : Element) (name : String) : Except Error (Option String) :=
  (metadata.optionalChild name).map fun e =>
    (e.map Element.textContent).filter fun s => !s.isEmpty

def optionalField (metadata : Element) (field : Field) :
    Except Error (List (String × String)) :=
  (metadataText metadata field.key).map fun value => (value.map (field.key, ·)).toList

def exportFields (settings : Settings) (metadata : Element) (size : Nat) :
    Except Error (List (String × String)) := do
  let title ← metadataText metadata "title"
  let creator ← metadataText metadata "creator"
  let editor ← optionalField metadata .editor
  let copyright ← optionalField metadata .copyright
  let publisher ← optionalField metadata .publisher
  return [(Field.name.key, title.getD unspecified), (Field.author.key, creator.getD unspecified)] ++
    editor ++ copyright ++ publisher ++
    [("size", toString size ++ "x" ++ toString size), (Field.pubdate.key, settings.pubdate)]

-- What is left to do once the grid is known.
def exportDocument (settings : Settings) (sections : Sections) (shape : Shape)
    (numbers : Table Coord) : Except Failure Document := do
  let answers := numbers.map shape.startsAt
  let lengths := answers.map Starts.lengths
  let listed ← refusing (readGroups ⟨[], []⟩ (sections.crossword.childrenNamed "clues"))
  let t ← refusing (resolveClues lengths listed)
  let fields ← refusing (exportFields settings sections.metadata sections.size)
  let lines ← exportLines t answers numbers.entries
  return ⟨fields, lines⟩

-- The document of an export.
def fromCompilerExport (settings : Settings) (text : String) : Except Failure Document :=
  match Element.read text with
  | .error flaw => .error (.refused (.malformedXml flaw))
  | .ok root =>
    match findSections root with
    | .error e => .error (.refused e)
    | .ok sections =>
      match readGrid sections.grid sections.size with
      | .error e => .error e
      | .ok (shape, numbers) => exportDocument settings sections shape numbers

end Cruciverb.Import
