import Cruciverb.Proofs.Compilation
import Cruciverb.Proofs.Import.Halting
import Cruciverb.Proofs.Json.RoundTrip

namespace Cruciverb

open Cruciverb.Import Cruciverb.Text

namespace Puzzle

-- Reading a document draws no grid.
theorem grid_readLines (grouping : Option Direction) (ls : List (List Char)) (p : Puzzle) :
    (readLines grouping ls p).grid = p.grid := by
  refine readLines_keeps (P := (·.grid = p.grid)) ?_ grouping rfl
  rintro l - q q' hstep hq
  cases hstep with
  | heading h _ => exact (grid_set h q).trans hq
  | clue | error => exact hq

theorem grid_read (source : String) : (read source).grid = none := grid_readLines _ _ _

theorem picture_validate_ne_empty (p : Puzzle) : p.validate.picture ≠ "" := by
  intro hempty
  obtain ⟨grid, hgrid⟩ : ∃ grid, p.validate.grid = some grid := ⟨_, rfl⟩
  have hside : p.validate.side = some p.dimensions.side := rfl
  have htext := congrArg String.toList hempty
  rw [picture, hgrid, hside, String.toList_ofList, Picture.lines, Picture.rulers] at htext
  cases htext

end Puzzle

theorem Json.compact_object_ne_empty (members : List (String × Json)) :
    (Json.object members).compact ≠ "" := by
  intro hempty
  have htext := congrArg String.toList hempty
  rw [compact, String.toList_ofList, text_object] at htext
  cases htext

theorem Spec.text_ne_empty (s : Spec) : s.text ≠ "" := Json.compact_object_ne_empty _

namespace Compilation

variable {settings : Settings} {text : String} {c : Compilation}

-- The errors and the text that they were found in.
def report (errors : List String) (text : String) : Json :=
  .object [("errors", .array (errors.map .string)), ("text", .string text)]

-- The report is read back as it is.
theorem read?_compact_report (errors : List String) (text : String) :
    Json.read? (report errors text).compact = some (report errors text) := by
  have hfits : (report errors text).Fits 2 := by
    apply Json.Fits.object
    simp only [List.forall_mem_cons]
    exact ⟨.array (List.forall_mem_map.mpr fun e _ => .string e), .string text, by simp⟩
  have harranged : (report errors text).arranged = report errors text := by
    have hitems : Json.arrangedItems (errors.map .string) = errors.map .string := by
      rw [Json.arrangedItems_eq, List.map_map]
      rfl
    have hkeys : ¬ "text" < "errors" := by decide
    simp [report, Json.arranged, Json.arrangedMembers, Json.putMember, hitems, hkeys]
  rw [hfits.read?_compact (by decide), harranged]

theorem derived_iff (h : compile settings text = .ok c) :
    (c.errors = [] ↔ c.spec?.isSome) ∧ (c.errors = [] ↔ (c.regenerated? true).isSome) ∧
      (c.errors = [] ↔ (c.regenerated? false).isSome) ∧ (c.errors = [] ↔ c.specText ≠ "") := by
  by_cases hv : c.Valid
  · have hc := hv.projects h
    have hnil : c.errors = [] := hc.errors
    simp [hnil, hc.spec, hc.regenerated, hc.specText, Spec.text_ne_empty]
  · have hc := fails h hv
    simp [hc.errors, hc.spec, hc.regenerated, hc.specText]

-- With errors, nothing but the errors is told, and the text if a response is asked for.
theorem told_of_errors (h : compile settings text = .ok c) (source : String) (hc : c.errors ≠ []) :
    c.specTextWithoutAnswers = "\n".intercalate c.errors ∧
      c.response source = (report c.errors source).compact ∧
      Json.read? (c.response source) = some (report c.errors source) := by
  have hresponse : c.response source = (report c.errors source).compact := if_neg hc
  refine ⟨(fails h hc).specTextWithoutAnswers, hresponse, ?_⟩
  rw [hresponse, read?_compact_report]

-- What is left of a text that cannot be converted.
structure Refused (c : Compilation) (e : Import.Error) : Prop where
  refusal : c.refusal = some e
  errors : c.errors = [e.message]
  source : c.source = ""
  picture : c.picture = ""
  clues : ∀ d, c.puzzle.clues.get d = []

-- What is made of a document. It is checked only if it has been read without an error.
structure Converted (c : Compilation) (document : String) : Prop where
  refusal : c.refusal = none
  source : c.source = document
  messages : c.errors = c.puzzle.messages
  errors : (Puzzle.read document).messages <+: c.errors
  checked : (Puzzle.read document).errors = [] → c.puzzle = (Puzzle.read document).validate
  unchecked : (Puzzle.read document).errors ≠ [] → c.puzzle = Puzzle.read document
  grid : c.puzzle.grid.isSome ↔ (Puzzle.read document).errors = []
  picture : c.picture ≠ "" ↔ (Puzzle.read document).errors = []

theorem refused_ofConversion (format : SourceFormat) (e : Import.Error) :
    (ofConversion format (.error e)).Refused e :=
  ⟨rfl, rfl, rfl, rfl, fun d => by cases d <;> rfl⟩

theorem converted_ofConversion (format : SourceFormat) (document : String) :
    (ofConversion format (.ok document)).Converted document := by
  have hsource : (Puzzle.read document).source = document := Puzzle.source_readLines _ _ _
  have hgrid := Puzzle.grid_read document
  by_cases h : (Puzzle.read document).errors = []
  · have hchecked : checked (Puzzle.read document) = (Puzzle.read document).validate :=
      if_pos (by simpa using h)
    rw [ofConversion, hchecked]
    refine ⟨rfl, hsource, rfl, ?_, fun _ => rfl, fun hne => absurd h hne, iff_of_true rfl h,
      iff_of_true (Puzzle.picture_validate_ne_empty _) h⟩
    rw [Puzzle.messages, h]
    exact List.nil_prefix
  · have hunchecked : checked (Puzzle.read document) = Puzzle.read document :=
      if_neg (by simpa using h)
    rw [ofConversion, hunchecked]
    refine ⟨rfl, hsource, rfl, List.prefix_rfl, fun hnil => absurd hnil h, fun _ => rfl, ?_, ?_⟩
    · exact iff_of_false (by simp [ofPuzzle, hgrid]) h
    · exact iff_of_false (by simp [ofPuzzle, Puzzle.picture, hgrid]) h

-- What one compilation comes to: its parts agree on whether the text is a valid puzzle, and a text that
-- cannot be converted is told from errors of the puzzle.
structure Coherent (settings : Settings) (text : String) (c : Compilation) : Prop where
  derived : (c.errors = [] ↔ c.spec?.isSome) ∧ (c.errors = [] ↔ (c.regenerated? true).isSome) ∧
    (c.errors = [] ↔ (c.regenerated? false).isSome) ∧ (c.errors = [] ↔ c.specText ≠ "")
  told : c.errors ≠ [] → c.specTextWithoutAnswers = "\n".intercalate c.errors ∧
    c.response text = (report c.errors text).compact ∧
    Json.read? (c.response text) = some (report c.errors text)
  refusal : ∀ e, c.refusal = some e ↔
    convert settings (SourceFormat.ofText text) text = .error (.refused e)
  refused : ∀ e, c.refusal = some e → c.Refused e
  converted : ∀ document, convert settings (SourceFormat.ofText text) text = .ok document →
    c.Converted document

theorem coherent (h : compile settings text = .ok c) : c.Coherent settings text := by
  have hderived := derived_iff h
  have htold := told_of_errors h text
  rw [compile] at h
  cases hconvert : convert settings (SourceFormat.ofText text) text with
  | ok document =>
    rw [hconvert] at h
    cases h
    have hconverted := converted_ofConversion (SourceFormat.ofText text) document
    refine ⟨hderived, htold, fun e => ?_, fun e he => ?_, ?_⟩
    · rw [hconverted.refusal, hconvert]
      simp
    · rw [hconverted.refusal] at he
      cases he
    · intro document' h
      cases hconvert.symm.trans h
      exact hconverted
  | error failure =>
    cases failure with
    | fault fault =>
      rw [hconvert] at h
      cases h
    | refused e =>
      rw [hconvert] at h
      cases h
      have hrefused := refused_ofConversion (SourceFormat.ofText text) e
      refine ⟨hderived, htold, fun e' => ?_, fun e' he => ?_, ?_⟩
      · rw [hrefused.refusal, hconvert]
        simp
      · rw [hrefused.refusal] at he
        cases he
        exact hrefused
      · intro document h
        cases hconvert.symm.trans h

theorem fault_iff {fault : Fault} : compile settings text = .error fault ↔
    Halts settings text (SourceFormat.ofText text) fault := by
  rw [← convert_fault_iff, compile]
  cases convert settings (SourceFormat.ofText text) text with
  | ok document => simp
  | error failure => cases failure <;> simp

theorem exists_ok (h : ∀ fault, ¬ Halts settings text (SourceFormat.ofText text) fault) :
    ∃ c, compile settings text = .ok c := by
  cases hcompile : compile settings text with
  | error fault => exact absurd (fault_iff.mp hcompile) (h fault)
  | ok c => exact ⟨c, rfl⟩

end Compilation

-- Each text that does not stop the machine is compiled, and the compilation is coherent.
theorem compile_coherent (settings : Settings) (text : String) :
    (∀ fault, compile settings text = .error fault ↔
      Halts settings text (SourceFormat.ofText text) fault) ∧
    ((∀ fault, ¬ Halts settings text (SourceFormat.ofText text) fault) →
      ∃ c, compile settings text = .ok c ∧ c.Coherent settings text) := by
  refine ⟨fun fault => Compilation.fault_iff, fun h => ?_⟩
  obtain ⟨c, hc⟩ := Compilation.exists_ok h
  exact ⟨c, hc, Compilation.coherent hc⟩

-- A document is compiled, and so is a text that is no spec.
theorem compile_coherent_markedText :
    (∃ c, compile { pubdate := "2017/01/01" } markedText = .ok c ∧ c.refusal = none ∧ c.errors = [] ∧
      c.spec?.isSome ∧ c.source = markedText ∧ c.picture ≠ "") ∧
    ∃ c, compile { pubdate := "2017/01/01" } "\x7b" = .ok c ∧ c.refusal = some .malformedJson ∧
      c.errors = [Import.Error.malformedJson.message] ∧ c.spec? = none ∧ c.source = "" ∧ c.picture = "" := by
  have hdocument : SourceFormat.ofText markedText = .document := by decide
  have hspec : SourceFormat.ofText "\x7b" = .legacySpec := by decide
  have hnone : Json.read? "\x7b" = none := by decide +kernel
  constructor
  · obtain ⟨c, hc, hcoherent⟩ := (compile_coherent { pubdate := "2017/01/01" } markedText).2
      (by rw [hdocument]; nofun)
    have hread : (Puzzle.read markedText).errors = [] := by decide
    have hconverted := hcoherent.converted markedText (by rw [hdocument]; rfl)
    have herrors : c.errors = [] := by
      have hof := (Compilation.compile_of_read hread { pubdate := "2017/01/01" }).symm.trans hc
      rw [← Except.ok.inj hof, Compilation.ofPuzzle]
      decide
    exact ⟨c, hc, hconverted.refusal, herrors, hcoherent.derived.1.mp herrors, hconverted.source,
      hconverted.picture.mpr hread⟩
  · obtain ⟨c, hc, hcoherent⟩ := (compile_coherent { pubdate := "2017/01/01" } "\x7b").2 (by
      rw [hspec]
      intro fault h
      cases h with
      | spec hmembers => cases hnone.symm.trans hmembers)
    have hrefusal : c.refusal = some .malformedJson := by
      rw [hcoherent.refusal, hspec, convert, fromLegacySpec, hnone]
      rfl
    have hrefused := hcoherent.refused _ hrefusal
    have hnotspec : ¬ c.spec?.isSome := by
      rw [← hcoherent.derived.1, hrefused.errors]
      simp
    exact ⟨c, hc, hrefusal, hrefused.errors, by simpa using hnotspec, hrefused.source, hrefused.picture⟩

def wideExport : String :=
  String.ofList ("<?xml version=\"1.0\"?>".toList ++ cornerExport "4294967296")

theorem halts_wideExport : Halts { pubdate := "2019/05/06" } wideExport (SourceFormat.ofText wideExport)
    .overflow := by
  have htext : wideExport.toList = SourceFormat.xmlDeclaration ++
      (" version=\"1.0\"?>".toList ++ cornerExport "4294967296") := String.toList_ofList
  have hformat : SourceFormat.ofText wideExport = .compilerExport :=
    SourceFormat.ofText_eq_compilerExport htext (by rw [htext]; decide +kernel)
      (by rw [htext]; decide +kernel)
  obtain ⟨sections, hsections, hsize⟩ := Option.map_eq_some_iff.mp (by decide +kernel :
    (sectionsOf? ("<?xml version=\"1.0\"?>".toList ++ cornerExport "4294967296")).map Sections.size =
      some Shape.sideLimit)
  obtain ⟨root, hread, hfound⟩ := exists_of_sectionsOf? hsections
  rw [hformat]
  exact .grid hread hfound (.inl ⟨rfl, Nat.le_of_eq hsize.symm⟩)

-- An export with more cells than a word can count comes to nothing at all.
theorem not_compiled_wideExport :
    compile { pubdate := "2019/05/06" } wideExport = .error .overflow :=
  Compilation.fault_iff.mpr halts_wideExport

end Cruciverb
