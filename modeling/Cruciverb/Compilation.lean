import Cruciverb.Document.Reader
import Cruciverb.Document.Regenerated
import Cruciverb.Picture
import Cruciverb.Puzzle.Validation
import Cruciverb.SourceFormat

namespace Cruciverb

open Cruciverb.Import

-- Everything that compiling a text comes to. It has the same shape whether the puzzle is valid or not.
structure Compilation where
  format : SourceFormat
  -- why the text could not be turned into a document
  refusal : Option Import.Error
  puzzle : Puzzle
  errors : List String
  -- the document that was read
  source : String
  spec? : Option Spec
  specText : String
  -- the errors, a line each, take the place of a spec
  specTextWithoutAnswers : String
  picture : String
  documentWithAnswers? : Option String
  documentWithoutAnswers? : Option String

namespace Compilation

-- What is made of a puzzle once it has been checked. A spec and documents are made of a valid one alone.
def ofPuzzle (format : SourceFormat) (refusal : Option Import.Error) (p : Puzzle) : Compilation :=
  let spec? := if p.Valid then some (Spec.ofPuzzle p) else none
  { format, refusal, spec?
    puzzle := p
    errors := p.messages
    source := p.source
    specText := (spec?.map Spec.text).getD ""
    specTextWithoutAnswers :=
      match spec? with
      | some s => s.withoutAnswers.text
      | none => "\n".intercalate p.messages
    picture := p.picture
    documentWithAnswers? := if p.Valid then some (p.regenerated true) else none
    documentWithoutAnswers? := if p.Valid then some (p.regenerated false) else none }

-- A puzzle is checked only if reading it found nothing wrong.
def checked (p : Puzzle) : Puzzle := if p.errors.isEmpty then p.validate else p

-- A refusal is the only error of its puzzle, which is empty otherwise.
def ofConversion (format : SourceFormat) : Except Import.Error String → Compilation
  | .ok document => ofPuzzle format none (checked (Puzzle.read document))
  | .error e => ofPuzzle format (some e) (Puzzle.ofErrors [.reported e.message])

def Valid (c : Compilation) : Prop := c.errors = []

instance (c : Compilation) : Decidable c.Valid := inferInstanceAs (Decidable (c.errors = []))

def regenerated? (c : Compilation) (withAnswers : Bool) : Option String :=
  if withAnswers then c.documentWithAnswers? else c.documentWithoutAnswers?

-- The spec, or an object with the errors and the text they were found in.
def response (c : Compilation) (text : String) : String :=
  if c.Valid then c.specText
  else
    (Json.object [("errors", .array (c.errors.map .string)), ("text", .string text)]).compact

end Compilation

-- Compiles a text, whatever its format, unless the machine stops at the conversion.
def compile (settings : Settings) (text : String) : Except Fault Compilation :=
  let format := SourceFormat.ofText text
  match convert settings format text with
  | .ok document => .ok (Compilation.ofConversion format (.ok document))
  | .error (.refused e) => .ok (Compilation.ofConversion format (.error e))
  | .error (.fault f) => .error f

end Cruciverb
