import Cruciverb.CommandLine
import Cruciverb.Proofs.Coherence
import Cruciverb.Proofs.Puzzle.Messages

namespace Cruciverb

open Cruciverb.Import Cruciverb.Text

namespace Import.Error

theorem message_ne_empty (e : Import.Error) : e.message ≠ "" := by
  cases e with
  | notCrosswordCompiler | malformedJson => decide
  | _ =>
    -- whatever is quoted, something of its own stands in front
    repeat' apply append_ne_empty
    decide

-- What is wrong comes before the help.
theorem message_prefix_detailed (e : Import.Error) : e.message.toList <+: e.detailed.toList := by
  rw [detailed]
  split
  · rw [String.toList_append, String.toList_append, List.append_assoc]
    exact List.prefix_append _ _
  · exact List.prefix_rfl

end Import.Error

theorem Puzzle.regenerated_ne_empty (p : Puzzle) (withAnswers : Bool) :
    p.regenerated withAnswers ≠ "" := by
  intro hempty
  have htext := congrArg String.toList hempty
  have htail : (p.document withAnswers).lines ++ (notes.map ("# " ++ ·) ++ [rule]) ≠ [] := by simp
  obtain ⟨next, rest, htail⟩ := List.exists_cons_of_ne_nil htail
  rw [regenerated, List.append_assoc, List.append_assoc, htail, String.toList_intercalate] at htext
  cases htext

namespace Compilation

variable {settings : Settings} {text : String} {c : Compilation}

-- A compilation either has the one error of its conversion or errors of its document.
theorem refused_or_converted (h : compile settings text = .ok c) :
    (∃ e, c.Refused e) ∨ ∃ document, c.Converted document := by
  rw [compile] at h
  split at h
  · next document _ =>
    cases h
    exact .inr ⟨document, converted_ofConversion _ document⟩
  · next e _ =>
    cases h
    exact .inl ⟨e, refused_ofConversion _ e⟩
  · cases h

theorem Converted.oneLine_errors {document : String} (h : c.Converted document) :
    ∀ m ∈ c.errors, OneLine m := by
  rw [h.messages]
  by_cases hread : (Puzzle.read document).errors = []
  · rw [h.checked hread]
    exact Puzzle.oneLine_messages_validate document
  · rw [h.unchecked hread]
    exact Puzzle.oneLine_messages_read document

-- No error is told by saying nothing.
theorem ne_empty_of_mem_errors (h : compile settings text = .ok c) : ∀ m ∈ c.errors, m ≠ "" := by
  rcases refused_or_converted h with ⟨e, he⟩ | ⟨document, hd⟩
  · rw [he.errors, List.forall_mem_singleton]
    exact e.message_ne_empty
  · exact fun m hm => (hd.oneLine_errors m hm).ne_empty

end Compilation

namespace CommandLine

theorem intercalate_ne_empty {ms : List String} (hne : ms ≠ []) (h : ∀ m ∈ ms, m ≠ "") :
    "\n".intercalate ms ≠ "" := by
  obtain ⟨m, rest, rfl⟩ := List.exists_cons_of_ne_nil hne
  have hm : m ≠ "" := h m List.mem_cons_self
  cases rest with
  | nil => simpa using hm
  | cons next rest =>
    rw [String.intercalate_cons_cons]
    exact append_ne_empty (append_ne_empty hm _) _

-- Each line that is written is one line.
theorem lines_join {ms : List String} (h : ∀ m ∈ ms, ∀ c ∈ m.toList, isLineEnd c = false) :
    Text.lines (String.join (ms.map line)).toList = ms.map String.toList ++ [[]] := by
  induction ms with
  | nil => rfl
  | cons m ms ih =>
    have hcons : (String.join ((m :: ms).map line)).toList =
        m.toList ++ '\n' :: (String.join (ms.map line)).toList := by
      simp [line, String.toList_join]
    rw [hcons, Text.lines, List.splitOnP_append_cons_of_forall_mem (h m List.mem_cons_self) '\n' rfl]
    exact congrArg (m.toList :: ·) (ih fun l hl => h l (List.mem_cons_of_mem _ hl))

-- What is asked for, of a valid puzzle. Where only errors are asked for, there is nothing to show.
def shown (p : Puzzle) : Output → String
  | .errors => ""
  | .spec => (Spec.ofPuzzle p).withoutAnswers.text
  | .specWithAnswers | .response => (Spec.ofPuzzle p).text
  | .picture => p.picture
  | .document => p.regenerated false
  | .documentWithAnswers => p.regenerated true

def count (errors : List String) : String := toString errors.length ++ " error(s) found."

theorem noLineEnd_count (errors : List String) : ∀ c ∈ (count errors).toList, isLineEnd c = false := by
  rw [count, String.toList_append, List.forall_mem_append]
  exact ⟨noLineEnd_toString errors.length, by decide⟩

section Report

variable {settings : Settings} {output : Output} {c : Compilation} {text : String}

theorem report_complaint (hv : ¬ c.Valid) (hout : output.showsErrors = false) :
    report output c text = ⟨1, "", complaint c⟩ := by
  rw [report, if_pos ⟨hv, by rw [hout]; rfl⟩]

-- Only an empty rendering leaves the stream empty.
theorem report_rendered (h : c.Valid ∨ output.showsErrors = true) :
    report output c text = ⟨if c.Valid then 0 else 1,
      if render output c text = "" then "" else line (render output c text), ""⟩ := by
  have hno : ¬ (¬ c.Valid ∧ (!output.showsErrors) = true) := by
    rintro ⟨hv, hout⟩
    rcases h with h | h
    · exact hv h
    · rw [h] at hout
      cases hout
  rw [report, if_neg hno]
  simp only [String.isEmpty_iff]

theorem render_valid (hc : c.Projects) (output : Output) (text : String) :
    render output c text = shown c.puzzle output := by
  cases output with
  | errors => rw [render, hc.errors]; rfl
  | spec => exact hc.specTextWithoutAnswers
  | specWithAnswers => exact hc.specText
  | picture => exact hc.picture
  | document => rw [render, hc.regenerated]; rfl
  | documentWithAnswers => rw [render, hc.regenerated]; rfl
  | response => exact (if_pos hc.errors).trans hc.specText

theorem shown_ne_empty (h : compile settings text = .ok c) (hv : c.Valid) (hout : output ≠ .errors) :
    shown c.puzzle output ≠ "" := by
  cases output with
  | errors => exact absurd rfl hout
  | spec | specWithAnswers | response => exact Spec.text_ne_empty _
  | picture =>
    obtain ⟨document, -, -, hpuzzle⟩ := Compilation.exists_document h hv
    rw [shown, hpuzzle]
    exact Puzzle.picture_validate_ne_empty _
  | document | documentWithAnswers => exact Puzzle.regenerated_ne_empty _ _

end Report

-- What becomes of a compilation and the text that it was made from.
structure Tells (output : Output) (c : Compilation) (text : String) (outcome : Outcome) : Prop where
  exit : outcome.exit = if c.errors = [] then 0 else 1
  refused : ∀ e, c.refusal = some e → output.showsErrors = false →
    outcome.stdout = "" ∧ outcome.stderr = line e.detailed ∧ c.errors = [e.message] ∧
      e.message.toList <+: e.detailed.toList
  listed : c.refusal = none → c.errors ≠ [] → output.showsErrors = false →
    outcome.stdout = "" ∧
      Text.lines outcome.stderr.toList = c.errors.map String.toList ++ [(count c.errors).toList, []]
  errors : c.errors ≠ [] → output = .errors →
    outcome.stdout = line ("\n".intercalate c.errors) ∧ outcome.stderr = ""
  response : c.errors ≠ [] → output = .response →
    outcome.stdout = line (Compilation.report c.errors text).compact ∧ outcome.stderr = "" ∧
      Json.read? (Compilation.report c.errors text).compact = some (Compilation.report c.errors text)
  nothing : c.errors = [] → output = .errors → outcome.stdout = "" ∧ outcome.stderr = ""
  shown : c.errors = [] → output ≠ .errors →
    outcome.stdout = line (shown c.puzzle output) ∧ shown c.puzzle output ≠ "" ∧ outcome.stderr = ""

theorem tells_report {settings : Settings} {text : String} {c : Compilation}
    (h : compile settings text = .ok c) (output : Output) :
    Tells output c text (report output c text) := by
  have hcomplaint (hc : c.errors ≠ []) (hout : output.showsErrors = false) :
      report output c text = ⟨1, "", complaint c⟩ := report_complaint hc hout
  have hrendered (hout : output.showsErrors = true) (hne : render output c text ≠ "") :
      (report output c text).stdout = line (render output c text) ∧ (report output c text).stderr = "" := by
    rw [report_rendered (.inr hout), if_neg hne]
    exact ⟨rfl, rfl⟩
  constructor
  case exit =>
    by_cases hc : c.errors = []
    · rw [report_rendered (.inl hc)]
      rfl
    · rw [if_neg hc]
      cases hout : output.showsErrors with
      | false => rw [hcomplaint hc hout]
      | true => rw [report_rendered (.inr hout)]; exact if_neg hc
  case refused =>
    intro e he hout
    rcases Compilation.refused_or_converted h with ⟨e', he'⟩ | ⟨document, hd⟩
    · obtain rfl : e' = e := Option.some.inj (he'.refusal.symm.trans he)
      have hc : c.errors ≠ [] := by simp [he'.errors]
      rw [hcomplaint hc hout, complaint, he]
      exact ⟨rfl, rfl, he'.errors, e'.message_prefix_detailed⟩
    · rw [hd.refusal] at he
      cases he
  case listed =>
    intro hnone hc hout
    rcases Compilation.refused_or_converted h with ⟨e, he⟩ | ⟨document, hd⟩
    · rw [he.refusal] at hnone
      cases hnone
    · have hlines : ∀ m ∈ c.errors ++ [count c.errors], ∀ ch ∈ m.toList, isLineEnd ch = false := by
        simp only [List.forall_mem_append, List.forall_mem_singleton]
        exact ⟨fun m hm => (hd.oneLine_errors m hm).noLineEnd, noLineEnd_count c.errors⟩
      have hjoin : complaint c = String.join ((c.errors ++ [count c.errors]).map line) := by
        rw [complaint, hnone]
        simp [count]
      rw [hcomplaint hc hout, hjoin, lines_join hlines]
      exact ⟨rfl, by simp⟩
  case errors =>
    rintro hc rfl
    exact hrendered rfl (intercalate_ne_empty hc (Compilation.ne_empty_of_mem_errors h))
  case response =>
    rintro hc rfl
    obtain ⟨-, hresponse, -⟩ := Compilation.told_of_errors h text hc
    have hrender : render .response c text = (Compilation.report c.errors text).compact := hresponse
    obtain ⟨hstdout, hstderr⟩ := hrendered rfl (hrender ▸ Json.compact_object_ne_empty _)
    exact ⟨hrender ▸ hstdout, hstderr, Compilation.read?_compact_report c.errors text⟩
  case nothing =>
    rintro hc rfl
    have hv : c.Valid := hc
    rw [report_rendered (.inl hv), render_valid (hv.projects h)]
    exact ⟨rfl, rfl⟩
  case shown =>
    intro hc hout
    have hv : c.Valid := hc
    have hne := shown_ne_empty h hv hout
    rw [report_rendered (.inl hv), render_valid (hv.projects h), if_neg hne]
    exact ⟨rfl, hne, rfl⟩

theorem run_fault_iff {today : String} {options : Options} {text : String} {fault : Fault} :
    run today options (.text text) = .error fault ↔
      Halts { pubdate := options.pubdate.getD today } text (SourceFormat.ofText text) fault := by
  rw [← Compilation.fault_iff, run]
  cases compile { pubdate := options.pubdate.getD today } text <;> simp

-- Each text that does not stop the machine has an outcome, in which no error is lost and nothing is shown
-- by halves.
theorem run_tells (today : String) (options : Options) (text : String) :
    (∀ fault, run today options (.text text) = .error fault ↔
      Halts { pubdate := options.pubdate.getD today } text (SourceFormat.ofText text) fault) ∧
    ((∀ fault, ¬ Halts { pubdate := options.pubdate.getD today } text (SourceFormat.ofText text) fault) →
      ∃ c outcome, compile { pubdate := options.pubdate.getD today } text = .ok c ∧
        run today options (.text text) = .ok outcome ∧ Tells options.output c text outcome) := by
  refine ⟨fun fault => run_fault_iff, fun h => ?_⟩
  obtain ⟨c, hc⟩ := Compilation.exists_ok h
  exact ⟨c, _, hc, by simp only [run, hc], tells_report hc options.output⟩

theorem run_tells_emptyDocument : SourceFormat.ofText "name: Empty" = .document ∧
    ∃ c outcome, compile { pubdate := "2020/01/01" } "name: Empty" = .ok c ∧
      c.errors = ["Error: no valid clues specified"] ∧
      run "2020/01/01" { output := .errors } (.text "name: Empty") = .ok outcome ∧ outcome.exit = 1 ∧
      outcome.stdout = "Error: no valid clues specified\n" ∧ outcome.stderr = "" := by
  have hformat : SourceFormat.ofText "name: Empty" = .document := by decide
  have hread : (Puzzle.read "name: Empty").errors = [] := by decide
  obtain ⟨c, outcome, hc, hrun, htells⟩ := (run_tells "2020/01/01" { output := .errors } "name: Empty").2
    (by rw [hformat]; nofun)
  have herrors : c.errors = ["Error: no valid clues specified"] := by
    have hof := (Compilation.compile_of_read hread { pubdate := "2020/01/01" }).symm.trans hc
    rw [← Except.ok.inj hof, Compilation.ofPuzzle]
    decide
  have hne : c.errors ≠ [] := by simp [herrors]
  obtain ⟨hstdout, hstderr⟩ := htells.errors hne rfl
  refine ⟨hformat, c, outcome, hc, herrors, hrun, htells.exit.trans (if_neg hne), ?_, hstderr⟩
  rw [hstdout, herrors]
  rfl

-- An export with more cells than a word can count has no outcome.
theorem not_run_wideExport :
    run "2019/05/06" { output := .errors } (.text wideExport) = .error .overflow :=
  run_fault_iff.mpr halts_wideExport

end CommandLine

end Cruciverb
