import Cruciverb.Compilation
import Cruciverb.PublicationDate

namespace Cruciverb.CommandLine

open Cruciverb.Import

-- What is shown of a compiled puzzle.
inductive Output where
  | errors
  | spec
  | specWithAnswers
  | picture
  | document
  | documentWithAnswers
  -- the spec, or the errors with the text
  | response
  deriving DecidableEq, Repr

namespace Output

def all : List Output :=
  [.errors, .spec, .specWithAnswers, .picture, .document, .documentWithAnswers, .response]

def name : Output → String
  | .errors => "errors"
  | .spec => "spec"
  | .specWithAnswers => "spec-with-answers"
  | .picture => "grid"
  | .document => "dsl"
  | .documentWithAnswers => "dsl-with-answers"
  | .response => "spec-json"

def ofName? (s : String) : Option Output := all.find? (·.name == s)

-- Errors are a part of what is asked for, and are not told on the other stream.
def showsErrors : Output → Bool
  | .errors | .response => true
  | _ => false

end Output

structure Options where
  output : Output := .specWithAnswers
  pubdate : Option String := none
  deriving DecidableEq

-- None where a value is not one that the option takes.
def Options.read? (output pubdate : Option String) : Option Options :=
  match output.mapM Output.ofName?, pubdate.mapM fun s => (PublicationDate.normalize s).toOption with
  | some output, some pubdate => some ⟨output.getD .specWithAnswers, pubdate⟩
  | _, _ => none

-- Where the text comes from has already been looked at.
inductive Source where
  | text (s : String)
  | unreadable (path reason : String)
  deriving DecidableEq, Repr

structure Outcome where
  exit : Nat
  stdout : String
  stderr : String
  deriving DecidableEq, Repr

def line (s : String) : String := s ++ "\n"

def render (output : Output) (c : Compilation) (text : String) : String :=
  match output with
  | .errors => "\n".intercalate c.errors
  | .spec => c.specTextWithoutAnswers
  | .specWithAnswers => c.specText
  | .picture => c.picture
  | .document => (c.regenerated? false).getD ""
  | .documentWithAnswers => (c.regenerated? true).getD ""
  | .response => c.response text

-- A refusal is told with its help; errors of the puzzle are counted.
def complaint (c : Compilation) : String :=
  match c.refusal with
  | some e => line e.detailed
  | none =>
    String.join (c.errors.map line) ++ line (toString c.errors.length ++ " error(s) found.")

def report (output : Output) (c : Compilation) (text : String) : Outcome :=
  if ¬ c.Valid ∧ !output.showsErrors then ⟨1, "", complaint c⟩
  else
    let rendered := render output c text
    ⟨if c.Valid then 0 else 1, if rendered.isEmpty then "" else line rendered, ""⟩

-- `today` is the date of puzzles that carry none, unless the options give another. There is no outcome
-- where the machine stops.
def run (today : String) (options : Options) : Source → Except Fault Outcome
  | .unreadable path reason =>
    .ok ⟨1, "", line ("Error: couldn't read " ++ path ++ ": " ++ reason)⟩
  | .text text =>
    match compile { pubdate := options.pubdate.getD today } text with
    | .error fault => .error fault
    | .ok c => .ok (report options.output c text)

-- The arguments as they are given: the path, the output, the date.
structure Arguments where
  path : Option String := none
  output : Option String := none
  pubdate : Option String := none
  deriving DecidableEq

def valueOf? (long : String) (argument : String) : Option String :=
  let start := (long ++ "=").toList
  if start.isPrefixOf argument.toList then
    some (String.ofList (argument.toList.drop start.length))
  else none

-- None where an argument is not known, or a value or the path is missing or given twice.
def readArguments? (done : Arguments) : List String → Option Arguments
  | [] => if done.path.isSome then some done else none
  | "--debug" :: rest | "-d" :: rest => readArguments? done rest
  | "--output" :: value :: rest | "-o" :: value :: rest =>
    if done.output.isSome then none else readArguments? { done with output := some value } rest
  | "--pubdate" :: value :: rest | "-p" :: value :: rest =>
    if done.pubdate.isSome then none else readArguments? { done with pubdate := some value } rest
  | argument :: rest =>
    match valueOf? "--output" argument, valueOf? "--pubdate" argument with
    | some value, _ =>
      if done.output.isSome then none else readArguments? { done with output := some value } rest
    | none, some value =>
      if done.pubdate.isSome then none else readArguments? { done with pubdate := some value } rest
    | none, none =>
      if done.path.isSome || (argument ≠ "-" && argument.toList.head? = some '-') then none
      else readArguments? { done with path := some argument } rest

def usage : String :=
  "Usage: crossword-dsl [--output OUTPUT] [--pubdate YYYY/MM/DD] [--debug] PATH"

end Cruciverb.CommandLine
