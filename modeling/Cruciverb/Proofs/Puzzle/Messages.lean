import Cruciverb.Proofs.Document.Legible
import Cruciverb.Proofs.Puzzle.Rejection

namespace Cruciverb

open Cruciverb.Text

-- A message for a line of its own.
structure OneLine (s : String) : Prop where
  ne_empty : s ≠ ""
  noLineEnd : ∀ c ∈ s.toList, isLineEnd c = false

theorem append_ne_empty {s : String} (hs : s ≠ "") (t : String) : s ++ t ≠ "" :=
  fun h => hs (String.append_eq_empty_iff.mp h).1

theorem OneLine.append {s t : String} (hs : OneLine s) (ht : ∀ c ∈ t.toList, isLineEnd c = false) :
    OneLine (s ++ t) := by
  refine ⟨append_ne_empty hs.ne_empty t, ?_⟩
  rw [String.toList_append, List.forall_mem_append]
  exact ⟨hs.noLineEnd, ht⟩

instance (s : String) : Decidable (OneLine s) :=
  decidable_of_iff (s ≠ "" ∧ ∀ c ∈ s.toList, isLineEnd c = false)
    ⟨fun h => ⟨h.1, h.2⟩, fun h => ⟨h.ne_empty, h.noLineEnd⟩⟩

theorem noLineEnd_toString (n : Nat) : ∀ c ∈ (toString n).toList, isLineEnd c = false := by
  rw [toList_toString]
  exact (ClueLine.whole_toDigits n).noLineEnd

theorem noLineEnd_name (d : Direction) : ∀ c ∈ d.name.toList, isLineEnd c = false := by
  cases d <;> decide

theorem Problem.oneLine_message (problem : Problem) : OneLine problem.message := by
  cases problem with
  | letterClash letter =>
    have hnumber : OneLine ("letter " ++ toString letter) :=
      OneLine.append (by decide) (noLineEnd_toString letter)
    exact hnumber.append (by decide)
  | word flaw => cases flaw <;> decide
  | _ => decide

namespace Puzzle

-- A line that the error quotes does not end before its message does. An error that was not found in the
-- puzzle is not of this kind.
def Error.InLine : Error → Prop
  | .unparseableLine line => ∀ c ∈ line.toList, isLineEnd c = false
  | .clue _ _ line => ∀ c ∈ line.toList, isLineEnd c = false
  | .reported _ => False
  | _ => True

theorem Error.InLine.oneLine {e : Error} (h : e.InLine) : OneLine e.message := by
  have hpair (relation : String) (hrelation : ∀ c ∈ relation.toList, isLineEnd c = false)
      (id previous : Nat) : OneLine ("Error: clue " ++ toString id ++ relation ++ toString previous) := by
    have hid : OneLine ("Error: clue " ++ toString id) := .append (by decide) (noLineEnd_toString id)
    exact (hid.append hrelation).append (noLineEnd_toString previous)
  cases e with
  | noGrouping | noClues => decide
  | unparseableLine line => exact .append (by decide) h
  | clue problem d line =>
    have hproblem : OneLine ("Error: " ++ problem.message ++ " in ") :=
      .append (.append (by decide) problem.oneLine_message.noLineEnd) (by decide)
    have hplace : OneLine ("Error: " ++ problem.message ++ " in " ++ d.name ++ " clue=") :=
      (hproblem.append (noLineEnd_name d)).append (by decide)
    exact hplace.append h
  | missingId id => exact .append (by decide) (noLineEnd_toString id)
  | startsAbove id previous | sameStart id previous | startsLeftOf id previous =>
    exact hpair _ (by decide) id previous
  | reported message => exact h.elim

-- All that is reported about the puzzle, and all that may be quoted when it is checked, is on one line.
structure Quotable (p : Puzzle) : Prop where
  errors : ∀ e ∈ p.errors, e.InLine
  sources : ∀ d, ∀ clue ∈ p.clues.get d, ∀ c ∈ clue.source.toList, isLineEnd c = false

section Reading

variable {p : Puzzle}

theorem quotable_empty (source : String) : Quotable { source } where
  errors e he := by cases he
  sources d clue hclue := by cases d <;> cases hclue

theorem Quotable.addError (h : p.Quotable) {e : Error} (he : e.InLine) :
    Quotable { p with errors := p.errors ++ [e] } where
  errors := List.forall_mem_append.mpr ⟨h.errors, List.forall_mem_singleton.mpr he⟩
  sources := h.sources

theorem Quotable.addClue (h : p.Quotable) {clue : Clue}
    (hsource : ∀ c ∈ clue.source.toList, isLineEnd c = false) (d : Direction) :
    (p.addClue d clue).Quotable where
  errors := h.errors
  sources := by
    intro e other hother
    rw [Puzzle.addClue, Both.get_modify] at hother
    split at hother
    · rcases List.mem_append.mp hother with hother | hlast
      · exact h.sources e other hother
      · rw [List.mem_singleton.mp hlast]
        exact hsource
    · exact h.sources e other hother

-- Each line keeps what has been read so far quotable.
theorem quotable_readLines {ls : List (List Char)} (hls : ∀ l ∈ ls, Clean l)
    (grouping : Option Direction) (h : p.Quotable) : (readLines grouping ls p).Quotable := by
  refine readLines_keeps ?_ grouping h
  intro l hl q q' hstep hq
  have hquoted : ∀ c ∈ (String.ofList l).toList, isLineEnd c = false := by
    rw [String.toList_ofList]
    exact (hls l hl).noLineEnd
  cases hstep with
  | heading heading _ =>
    exact ⟨(errors_set heading q).symm ▸ hq.errors, (clues_set heading q).symm ▸ hq.sources⟩
  | clue d line _ => exact hq.addClue hquoted d
  | error e he =>
    rcases he with rfl | rfl
    · exact hq.addError trivial
    · exact hq.addError hquoted

theorem quotable_read (source : String) : (read source).Quotable :=
  quotable_readLines (fun _ => clean_of_mem_cleanLines) none (quotable_empty source)

end Reading

section Checking

variable {side : Nat} {d : Direction}

-- Checking a clue does not change the line that it was read from.
theorem exists_source_of_mem_findings {w : Walk} {last : Nat} {clues : List Clue}
    {finding : Clue × List Problem} (h : finding ∈ (findings side d w last clues).1) :
    ∃ clue ∈ clues, finding.1.source = clue.source := by
  induction clues generalizing w last with
  | nil => cases h
  | cons clue rest ih =>
    rw [findings_of_step rfl] at h
    rcases List.mem_cons.mp h with rfl | h
    · exact ⟨clue, List.mem_cons_self, congrArg (·.2.2.2) given_checkClue⟩
    · obtain ⟨other, hother, hsource⟩ := ih h
      exact ⟨other, List.mem_cons_of_mem _ hother, hsource⟩

theorem inLine_report {w : Walk} {last : Nat} {clues : List Clue}
    (h : ∀ clue ∈ clues, ∀ c ∈ clue.source.toList, isLineEnd c = false) :
    ∀ e ∈ (findings side d w last clues).1.flatMap (report d), e.InLine := by
  intro e he
  obtain ⟨finding, hfinding, he⟩ := List.mem_flatMap.mp he
  obtain ⟨problem, -, rfl⟩ := List.mem_map.mp he
  obtain ⟨clue, hclue, hsource⟩ := exists_source_of_mem_findings hfinding
  exact hsource ▸ h clue hclue

theorem Error.OfNumbering.inLine {e : Error} (h : e.OfNumbering) : e.InLine := by
  cases h <;> exact trivial

-- Whether or not the ids are checked as a whole.
theorem inLine_closed {errors : List Error} (w : Walk) (h : ∀ e ∈ errors, e.InLine) :
    ∀ e ∈ if errors.isEmpty then numberingErrors side w else errors, e.InLine := by
  split
  · exact fun e he => (ofNumbering_of_mem he).inLine
  · exact h

theorem Quotable.validate {p : Puzzle} (h : p.Quotable) : ∀ e ∈ p.validate.errors, e.InLine := by
  have hnoClues : ∀ b : Bool, ∀ e ∈ if b then [Error.noClues] else [], e.InLine := by
    intro b e he
    cases b with
    | false => cases he
    | true =>
      rw [List.mem_singleton.mp he]
      exact trivial
  rw [Puzzle.validate]
  simp only [walkClues_eq]
  refine inLine_closed _ ?_
  simp only [List.forall_mem_append]
  exact ⟨⟨⟨h.errors, hnoClues _⟩, inLine_report (h.sources .across)⟩, inLine_report (h.sources .down)⟩

end Checking

-- Whether its document was checked or not, each of its errors has a line.
theorem oneLine_messages_read (source : String) : ∀ m ∈ (read source).messages, OneLine m :=
  List.forall_mem_map.mpr fun e he => ((quotable_read source).errors e he).oneLine

theorem oneLine_messages_validate (source : String) :
    ∀ m ∈ (read source).validate.messages, OneLine m :=
  List.forall_mem_map.mpr fun e he => ((quotable_read source).validate e he).oneLine

end Puzzle

end Cruciverb
