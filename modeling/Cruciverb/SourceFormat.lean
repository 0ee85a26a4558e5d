import Cruciverb.Import.CompilerExport
import Cruciverb.Import.LegacySpec
import Cruciverb.Import.QuickSlow

namespace Cruciverb

open Cruciverb.Import Cruciverb.Text

inductive SourceFormat where
  | quickSlow
  | legacySpec
  | document
  | compilerExport
  -- XML of any other kind
  | foreignXml
  deriving DecidableEq, Repr

namespace SourceFormat

def all : List SourceFormat := [.quickSlow, .legacySpec, .document, .compilerExport, .foreignXml]

def name : SourceFormat → String
  | .quickSlow => "quick-slow"
  | .legacySpec => "legacy-json"
  | .document => "dsl"
  | .compilerExport => "compiler-xml"
  | .foreignXml => "foreign-xml"

def ofName? (s : String) : Option SourceFormat := all.find? (·.name == s)

def label : SourceFormat → String
  | .quickSlow => "Quick-Slow clue list"
  | .legacySpec => "legacy JSON spec"
  | .document => "DSL"
  | .compilerExport => "CrosswordCompiler XML"
  | .foreignXml => "non-CrosswordCompiler XML"

def xmlDeclaration : List Char := "<?xml".toList

def compilerTag : List Char := "<crossword-compiler".toList

-- The marker of a quick-slow list wins over everything else. What shows no sign of another format
-- is a document.
def ofText (text : String) : SourceFormat :=
  let cs := text.toList
  let front := trimStart cs
  if hasMarker cs then .quickSlow
  else if front.head? = some '\x7b' then .legacySpec
  else if !xmlDeclaration.isPrefixOf front then .document
  else if occurs compilerTag cs then .compilerExport
  else .foreignXml

end SourceFormat

-- The text of the document that a text in the given format stands for.
def convert (settings : Settings) (format : SourceFormat) (text : String) :
    Except Failure String :=
  match format with
  | .document => .ok text
  | .quickSlow => (fromQuickSlow settings text).map Document.text
  | .legacySpec => (fromLegacySpec settings text).map Document.text
  | .compilerExport => (fromCompilerExport settings text).map Document.text
  | .foreignXml => .error (.refused .notCrosswordCompiler)

end Cruciverb
