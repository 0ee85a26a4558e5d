import Cruciverb.Document.Regenerated
import Cruciverb.Proofs.Answer.Settling
import Cruciverb.Proofs.Document.Legible
import Cruciverb.Proofs.Puzzle.Retelling
import Cruciverb.Proofs.SourceFormat

namespace Cruciverb

open Cruciverb.Answer Cruciverb.Text

namespace Clue

-- The clue that the settled clue's own line stands for.
def rewritten (c : Clue) : Clue := .written c.settled.toClueLine

theorem retells_rewritten (c : Clue) : c.Retells id c.rewritten :=
  ⟨rfl, rfl, c.retells_settled.words⟩

-- Settling a clue that was settled before and written down finds the same.
theorem settled_rewritten {c : Clue} (hwords : ∀ w ∈ wordsOf c.answer.toList, w ≠ []) :
    c.rewritten.settled = { c.settled with source := c.settled.text } := by
  have hunpack : unpack c.rewritten.answer.toList = unpack c.answer.toList := unpack_settled hwords
  rw [settled, hunpack]
  rfl

theorem writable_settled {c : Clue} (h : c.toClueLine.Writable)
    (hwords : ∀ w ∈ wordsOf c.answer.toList, w ≠ []) : c.settled.toClueLine.Writable where
  x_lt := h.x_lt
  y_lt := h.y_lt
  id_lt := h.id_lt
  body := h.body
  answer := by
    show Line.isAnswer (String.ofList (unpack c.answer.toList).answer).toList = true
    rw [String.toList_ofList]
    exact isAnswer_unpack h.answer hwords

end Clue

namespace Puzzle

variable {p q : Puzzle}

theorem readsBack_of_takes {f : Field} {value : String} (h : f.Takes value) :
    readsBack f value = true := by
  have hread := @Heading.read_fieldLine (.field f value) h
  rw [Heading.entry] at hread
  rw [readsBack, hread]
  simp [Heading.line]

-- The value of a field if it is worth a line.
def written? (p : Puzzle) (f : Field) : Option String := (p.field? f).filter (readsBack f)

def headings (p : Puzzle) : List Heading :=
  fieldOrder.filterMap (fun f => (p.written? f).map (.field f)) ++ [.size p.dimensions]

theorem fields_document (p : Puzzle) (withAnswers : Bool) :
    (p.document withAnswers).fields = p.headings.map Heading.entry := by
  rw [headings, List.map_append, List.map_filterMap]
  refine congrArg (· ++ _) (List.filterMap_congr fun f _ => ?_)
  rw [written?]
  cases hf : p.field? f with
  | none => rfl
  | some value =>
    rw [Option.filter_some, Option.map_map]
    dsimp only
    split <;> rfl

theorem takes_of_written? (h : p.Legible) {f : Field} {value : String}
    (hv : p.written? f = some value) : f.Takes value := by
  rw [written?, Option.filter_eq_some_iff] at hv
  obtain ⟨hfield, hread⟩ := hv
  refine h.takes hfield fun hdefault => ⟨?_, ?_⟩
  all_goals
    rintro rfl
    cases hdefault
    exact absurd hread (by decide)

theorem field?_setAll_headings (h : p.Legible) (source : String) (f : Field) :
    (setAll p.headings { source }).field? f = p.field? f := by
  have hsize (r : Puzzle) : ((Heading.size p.dimensions).set r).field? f = r.field? f := by
    cases f <;> rfl
  have hmem : f ∈ fieldOrder := by cases f <;> decide
  rw [headings, setAll_append, setAll_cons, setAll_nil, hsize, field?_setAll (by decide), if_pos hmem]
  exact h.filter_or_default (fun _ => readsBack_of_takes) source

theorem dimensions_setAll_headings (p : Puzzle) (source : String) :
    (setAll p.headings { source }).dimensions = p.dimensions := by
  rw [headings, setAll_append, setAll_cons, setAll_nil]
  rfl

theorem readable_headings (h : p.Legible) : ∀ g ∈ p.headings, g.Readable := by
  intro g hg
  rw [headings, List.mem_append, List.mem_singleton, List.mem_filterMap] at hg
  rcases hg with ⟨f, -, hf⟩ | rfl
  · obtain ⟨value, hvalue, rfl⟩ := Option.map_eq_some_iff.mp hf
    exact takes_of_written? h hvalue
  · trivial

theorem noLineEnd_of_mem_notes : ∀ note ∈ notes, note.toList.all (!isLineEnd ·) = true := by
  decide +kernel

-- The lines around the document say nothing.
theorem frame_spec {l : String} (h : l ∈ [rule] ++ notes.map ("# " ++ ·)) :
    (∀ c ∈ l.toList, isLineEnd c = false) ∧ Line.read (cleanLine l.toList) = .ignored := by
  rw [List.mem_append, List.mem_singleton, List.mem_map] at h
  rcases h with rfl | ⟨note, hnote, rfl⟩
  · exact ⟨by simp [rule, isLineEnd], by decide⟩
  · have htext : ("# " ++ note).toList = '#' :: ' ' :: note.toList := String.toList_append
    rw [htext]
    refine ⟨?_, rfl⟩
    have hends := noLineEnd_of_mem_notes note hnote
    simp only [List.forall_mem_cons]
    exact ⟨by decide, by decide, by simpa using hends⟩

namespace Outcome

theorem headings_eq (hq : p.Outcome q) : q.headings = p.headings := by
  rw [headings, headings, hq.dimensions]
  refine congrArg (· ++ _) (List.filterMap_congr fun f _ => ?_)
  rw [written?, written?, hq.field]

theorem clues_document (hq : p.Outcome q) :
    (q.document true).clues = p.clues.map (·.map fun c => c.settled.toClueLine) := by
  rw [document, hq.clues]
  exact Both.map_map_lists _ _ _

theorem writable_document (hq : p.Outcome q) (h : p.Legible) (hl : p.Lawful) :
    ∀ d, ∀ c ∈ (q.document true).clues.get d, c.Writable := by
  intro d line hline
  rw [hq.clues_document, Both.get_map] at hline
  obtain ⟨c, hc, rfl⟩ := List.mem_map.mp hline
  exact Clue.writable_settled (h.writable d c hc) (hl.sound ⟨d, c⟩ (mem_entries.mpr hc)).words

theorem read_regenerated (hq : p.Outcome q) (h : p.Legible) (hl : p.Lawful) :
    read (q.regenerated true) =
      { setAll p.headings { source := q.regenerated true } with
        clues := p.clues.map (·.map Clue.rewritten) } := by
  have hfields : (q.document true).fields = p.headings.map Heading.entry := by
    rw [fields_document, hq.headings_eq]
  have hframe : ∀ l ∈ [rule] ++ (notes.map ("# " ++ ·) ++ [rule]),
      (∀ c ∈ l.toList, isLineEnd c = false) ∧ Line.read (cleanLine l.toList) = .ignored := by
    intro l hl
    have hmem : l ∈ [rule] ++ notes.map ("# " ++ ·) := by
      simp only [List.mem_append] at hl ⊢
      exact hl.elim .inl Or.symm
    exact frame_spec hmem
  have htext : q.regenerated true = "\n".intercalate
      ([rule] ++ (q.document true).lines ++ (notes.map ("# " ++ ·) ++ [rule])) := by
    rw [regenerated, List.append_assoc ([rule] ++ _)]
  have hread := Document.read_framed hfields (readable_headings h) (hq.writable_document h hl) hframe
  have hclues : (q.document true).clues.map (·.map Clue.written) =
      p.clues.map (·.map Clue.rewritten) := by
    rw [hq.clues_document]
    exact Both.map_map_lists _ _ _
  rw [hclues, ← htext] at hread
  exact hread

theorem retells_regenerated (hq : p.Outcome q) (h : p.Legible) (hl : p.Lawful) :
    p.Retells id Clue.rewritten (read (q.regenerated true)) := by
  refine ⟨?_, ?_, fun _ c _ => c.retells_rewritten⟩
  · rw [hq.read_regenerated h hl]
    exact dimensions_setAll_headings p _
  · rw [hq.read_regenerated h hl]

theorem errors_regenerated (hq : p.Outcome q) (h : p.Legible) (hl : p.Lawful) :
    (read (q.regenerated true)).errors = [] := by
  rw [hq.read_regenerated h hl]
  exact errors_setAll _ _

theorem field_regenerated (hq : p.Outcome q) (h : p.Legible) (hl : p.Lawful) (f : Field) :
    (read (q.regenerated true)).field? f = p.field? f := by
  rw [hq.read_regenerated h hl]
  refine Eq.trans ?_ (field?_setAll_headings h (q.regenerated true) f)
  cases f <;> rfl

theorem ofText_regenerated (hq : p.Outcome q) (h : p.Legible) (hl : p.Lawful) :
    SourceFormat.ofText (q.regenerated true) = .document :=
  SourceFormat.ofText_of_read (hq.errors_regenerated h hl)

end Outcome

end Puzzle

end Cruciverb
