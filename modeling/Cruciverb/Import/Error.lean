import Cruciverb.Grid.Coord

namespace Cruciverb.Import

-- What keeps a text from being a tree of elements.
inductive XmlFlaw where
  | notWellFormed
  | unclosed (path : String)
  | noRoot
  deriving DecidableEq, Repr

-- A break of the rules of the format is not described any further.
def XmlFlaw.message : XmlFlaw → String
  | .notWellFormed => "<detail>"
  | .unclosed path => "unclosed element " ++ path
  | .noRoot => "no root element"

inductive Error where
  | notCrosswordCompiler
  | malformedXml (flaw : XmlFlaw)
  | missingElement (path : String)
  | duplicateElement (path : String) (count : Nat)
  | missingAttribute (path attr : String)
  | invalidAttribute (path attr value : String)
  | gridNotSquare (path width height : String)
  | missingCell (path : String) (position : Coord)
  | missingClueTitle (path : String)
  | unrecognisedDirection (path direction : String)
  | missingClueText (number : String)
  | unparseableClueId (id : String)
  | unknownAnswer (id : Nat) (direction : Direction)
  | missingClue (id : Nat) (direction : Direction)
  | formatExhausted (clue : String) (id : Nat) (direction : Direction)
  | formatOvershoot (clue : String) (value remaining id : Nat) (direction : Direction)
  | formatLeftover (clue : String) (leftover : List Nat)
  | invalidFormat (id : Nat) (direction : Direction) (format : String)
  | formatLengthMismatch (id : Nat) (direction : Direction) (format : String) (length : Nat)
  | malformedJson
  | missingField (field : String)
  | invalidField (field reason : String)
  | answerCountMismatch (direction : Direction) (clues answers : Nat)
  | answerLengthMismatch (direction : Direction) (id expected actual : Nat)
  | unresolvableId (direction : Direction) (id : Nat)
  | unparseableQuickSlowLine (line : String)
  | quickSlowNoGrouping (line : String)
  | noMatchingTemplate (ids : List Nat)
  | templateMissingSlot (template : String) (direction : Direction) (id : Nat)
  | templateLengthMismatch (template : String) (direction : Direction) (id slot format : Nat)
  deriving DecidableEq, Repr

namespace Error

def numbers (ns : List Nat) : String := ",".intercalate (ns.map toString)

def message : Error → String
  | notCrosswordCompiler => "ERROR: input appears to be non-Crossword-Compiler XML"
  | malformedXml flaw => "ERROR: malformed XML: " ++ flaw.message
  | missingElement path => "ERROR: missing " ++ path ++ " element"
  | duplicateElement path count =>
    "ERROR: expected a single " ++ path ++ " element but found " ++ toString count
  | missingAttribute path attr =>
    "ERROR: missing " ++ path ++ ".@" ++ attr ++ " attribute"
  | invalidAttribute path attr value =>
    "ERROR: invalid " ++ path ++ ".@" ++ attr ++ " attribute: '" ++ value ++ "'"
  | gridNotSquare path width height =>
    "ERROR: conflicting width (" ++ width ++ ") and height (" ++ height ++ ") in " ++ path
  | missingCell path position =>
    "ERROR: missing cell at x=" ++ toString position.x ++ ", y=" ++ toString position.y ++ " in " ++
      path
  | missingClueTitle path => "ERROR: cannot find title text in " ++ path
  | unrecognisedDirection path direction =>
    "ERROR: " ++ path ++ " have unrecognised direction=" ++ direction
  | missingClueText number => "ERROR: no text in clue number=" ++ number
  | unparseableClueId id => "ERROR: could not parse clue id=" ++ id
  | unknownAnswer id direction =>
    "ERROR: no " ++ direction.name ++ " answer in the grid for clue id=" ++ toString id
  | missingClue id direction =>
    "ERROR: cannot find " ++ direction.name ++ " clue for answer id=" ++ toString id
  | formatExhausted clue id direction =>
    "ERROR: cannot distribute formats among multi-clue " ++ clue ++
      ": not enough remaining format values for " ++ toString id ++ " " ++ direction.name
  | formatOvershoot clue value remaining id direction =>
    "ERROR: cannot distribute formats among multi-clue " ++ clue ++ ": remaining format value, " ++
      toString value ++ ", too large for remaining answer length, " ++ toString remaining ++ ": " ++
      toString id ++ " " ++ direction.name
  | formatLeftover clue leftover =>
    "ERROR: cannot fully distribute formats among multi-clue " ++ clue ++
      ": some remaining formats, " ++ numbers leftover
  | invalidFormat id direction format =>
    "ERROR: invalid format '" ++ format ++ "' for " ++ direction.name ++ " clue id=" ++ toString id
  | formatLengthMismatch id direction format length =>
    "ERROR: format '" ++ format ++ "' does not match answer length " ++ toString length ++ " for " ++
      direction.name ++ " clue id=" ++ toString id
  | malformedJson => "ERROR: invalid JSON: <detail>"
  | missingField field => "ERROR: missing field: " ++ field
  | invalidField field reason => "ERROR: invalid field: " ++ field ++ ": " ++ reason
  | answerCountMismatch direction clues answers =>
    "ERROR: " ++ direction.name ++ " has " ++ toString clues ++ " clues but " ++ toString answers ++
      " answers"
  | answerLengthMismatch direction id expected actual =>
    "ERROR: " ++ direction.name ++ " clue id=" ++ toString id ++ ": answer has " ++
      toString actual ++ " letters but word lengths total " ++ toString expected
  | unresolvableId direction id =>
    "ERROR: no grid position for " ++ direction.name ++ " clue id=" ++ toString id
  | unparseableQuickSlowLine line => "ERROR: couldn't parse quick slow line: " ++ line
  | quickSlowNoGrouping line =>
    "ERROR: quick slow clue specified but no 'across' or 'down' grouping specified: " ++ line
  | noMatchingTemplate ids =>
    "ERROR: no grid template matches across clue ids [" ++ numbers ids ++ "]"
  | templateMissingSlot template direction id =>
    "ERROR: template " ++ template ++ " has no " ++ direction.name ++ " slot for clue id=" ++
      toString id
  | templateLengthMismatch template direction id slot format =>
    "ERROR: template " ++ template ++ " " ++ direction.name ++ " slot id=" ++ toString id ++
      " has length " ++ toString slot ++ " but the clue format totals " ++ toString format

-- A way out, where there is one to name.
def help? : Error → Option String
  | notCrosswordCompiler =>
    some "Only CrosswordCompiler XML exports (root element <crossword-compiler>) can be imported"
  | malformedXml _ => some "Check that the file is complete and every element is closed"
  | gridNotSquare .. => some "Only square grids (15x15 or 17x17) are supported"
  | formatExhausted .. | formatOvershoot .. | formatLeftover .. =>
    some "The format of a multi-clue answer must split exactly into the lengths of its grid answers, e.g. (4,5) for answers of length 4 and 5"
  | formatLengthMismatch .. =>
    some "The numbers in a clue's format must add up to the length of its answer in the grid"
  | missingField _ =>
    some "A spec needs author, editor, publisher, copyright, date, size, grid, gridnums and clues"
  | answerCountMismatch .. | answerLengthMismatch .. =>
    some "Each clue needs exactly one answer whose length matches its word lengths"
  | noMatchingTemplate _ =>
    some "The across clue numbers must match one of the known grid templates exactly"
  | _ => none

-- The help, if any, is on a line of its own.
def detailed (e : Error) : String :=
  match e.help? with
  | some help => e.message ++ "\n" ++ help
  | none => e.message

end Error

-- A conversion that the machine could not carry out, whatever the text means.
inductive Fault where
  -- a number that is no machine word
  | overflow
  -- more cells, or letters, than can be addressed
  | tooLarge
  -- a cell beyond the end of the table
  | outsideTable
  deriving DecidableEq, Repr

-- The two ways in which a conversion can end without a document.
inductive Failure where
  | refused (error : Error)
  | fault (fault : Fault)
  deriving DecidableEq, Repr

-- A conversion, or a part of one, that can only be refused.
def refusing {α : Type} : Except Error α → Except Failure α
  | .ok a => .ok a
  | .error e => .error (.refused e)

theorem refusing_ok_iff {α : Type} {x : Except Error α} {a : α} : refusing x = .ok a ↔ x = .ok a := by
  cases x <;> simp [refusing]

theorem refusing_ne_fault {α : Type} {x : Except Error α} {f : Fault} :
    refusing x ≠ .error (.fault f) := by
  cases x <;> simp [refusing]

theorem pure_ok_iff {ε α : Type} {a b : α} : (pure a : Except ε α) = .ok b ↔ a = b :=
  ⟨Except.ok.inj, congrArg Except.ok⟩

-- What several conversions, one after the other, come to.
theorem bind_ok_iff {ε α β : Type} {x : Except ε α} {f : α → Except ε β} {b : β} :
    x >>= f = .ok b ↔ ∃ a, x = .ok a ∧ f a = .ok b := by
  cases x <;> simp [bind, Except.bind]

theorem bind_error_iff {ε α β : Type} {x : Except ε α} {f : α → Except ε β} {e : ε} :
    x >>= f = .error e ↔ x = .error e ∨ ∃ a, x = .ok a ∧ f a = .error e := by
  cases x <;> simp [bind, Except.bind]

end Cruciverb.Import
