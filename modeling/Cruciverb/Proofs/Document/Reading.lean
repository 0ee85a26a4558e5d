import Cruciverb.Document.Reader
import Cruciverb.Proofs.Document.ClueText

namespace Cruciverb

open Cruciverb.Text

-- One of the lines above the clues.
inductive Heading where
  | field (field : Field) (value : String)
  | size (dimensions : Dimensions)

namespace Heading

def entry : Heading → String × String
  | field f value => (f.key, value)
  | size d => ("size", d.text)

def line : Heading → Line
  | field f value => .field f value
  | size d => .size d

def set : Heading → Puzzle → Puzzle
  | field f value, p => p.setField f value
  | size d, p => { p with dimensions := d }

-- What the line gives to the field.
def value? (f : Field) : Heading → Option String
  | field g value => if g = f then some value else none
  | size _ => none

def dimensions? : Heading → Option Dimensions
  | field _ _ => none
  | size d => some d

def Readable : Heading → Prop
  | field f value => f.Takes value
  | size _ => True

theorem toList_fieldLine_entry (f : Field) (value : String) :
    (Document.fieldLine (f.key, value)).toList = f.key.toList ++ ':' :: ' ' :: value.toList := by
  simp [Document.fieldLine]

theorem clean_fieldLine {h : Heading} (hr : h.Readable) :
    Clean (Document.fieldLine h.entry).toList := by
  cases h with
  | size d => cases d <;> decide
  | field f value =>
    have hkey : Whole f.key.toList ∧ ∃ c cs, f.key.toList = c :: cs ∧ isBlank c = false := by
      cases f <;> exact ⟨by decide, _, _, rfl, by decide⟩
    obtain ⟨hwhole, c, cs, hcs, hc⟩ := hkey
    rw [entry, toList_fieldLine_entry]
    refine { (?_ : Whole _) with head := ?_, last := ?_ }
    · simp [hwhole, hr.isValue.toWhole, isLineEnd]
    · intro d hd
      rw [hcs, List.cons_append, List.head?_cons, Option.some.injEq] at hd
      rw [← hd]
      exact hc
    · intro d hd
      refine hr.isValue.last d ?_
      cases hv : value.toList with
      | nil => exact absurd hv hr.isValue.ne_nil
      | cons v vs => simpa [hv, List.getLast?_append] using hd

theorem read_fieldLine {h : Heading} (hr : h.Readable) :
    Line.read (Document.fieldLine h.entry).toList = h.line := by
  cases h with
  | size d => cases d <;> rfl
  | field f value =>
    rw [entry, toList_fieldLine_entry]
    have hempty : (f.key.toList ++ ':' :: ' ' :: value.toList).isEmpty = false := by
      cases f <;> rfl
    have hrule : (f.key.toList ++ ':' :: ' ' :: value.toList == "---".toList) = false := by
      cases f <;> rfl
    have hfront : Line.isFrontMatter (f.key.toList ++ ':' :: ' ' :: value.toList) = false := by
      cases f <;> rfl
    by_cases hf : f = .pubdate
    · subst hf
      have hfield : Line.field? (Field.pubdate.key.toList ++ ':' :: ' ' :: value.toList) = none := rfl
      simp only [Line.read, hempty, hrule, hfront, Bool.or_self, Bool.false_eq_true, if_false, hfield,
        Line.pubdate?_fieldLine hr.isValue (hr.date rfl), String.ofList_toList, line]
    · simp only [Line.read, hempty, hrule, hfront, Bool.or_self, Bool.false_eq_true, if_false,
        Line.field?_fieldLine hf hr.isValue, String.ofList_toList, line]

end Heading

theorem Field.takes_of_read {cs : List Char} {f : Field} {value : String} (hcs : Clean cs)
    (h : Line.read cs = .field f value) : f.Takes value := by
  unfold Line.read at h
  split at h
  · cases h
  split at h
  · next key v hfield =>
    cases h
    have hne : f ≠ .pubdate := by
      rintro rfl
      exact Line.field?_ne_pubdate hfield rfl
    exact ⟨by simpa using Line.field?_inv hcs hfield, fun hf => absurd hf hne⟩
  · split at h
    · next v hdate =>
      cases h
      obtain ⟨hvalue, hshape⟩ := Line.pubdate?_inv hcs hdate
      exact ⟨by simpa using hvalue, fun _ => by simpa using hshape⟩
    · repeat' split at h
      all_goals cases h

def Clue.written (line : ClueLine) : Clue := .ofLine line line.text

namespace Puzzle

variable {grouping : Option Direction} {rest : List (List Char)} {p : Puzzle}

theorem readLines_headings {hs : List Heading} (hr : ∀ h ∈ hs, h.Readable) :
    readLines grouping (hs.map (fun h => (Document.fieldLine h.entry).toList) ++ rest) p =
      readLines grouping rest (hs.foldl (fun p h => h.set p) p) := by
  induction hs generalizing p with
  | nil => rfl
  | cons h hs ih =>
    have hline := Heading.read_fieldLine (hr h (by simp))
    have ih := fun p => ih (p := p) fun h hm => hr h (List.mem_cons_of_mem _ hm)
    rw [List.map_cons, List.cons_append, readLines, hline]
    cases h with
    | field f value => exact ih _
    | size d => exact ih _

theorem readLines_clues (d : Direction) {clues : List ClueLine} (hw : ∀ c ∈ clues, c.Writable) :
    readLines (some d) (clues.map (·.text.toList) ++ rest) p =
      readLines (some d) rest { p with clues := p.clues.modify d (· ++ clues.map Clue.written) } := by
  induction clues generalizing p with
  | nil => cases d <;> simp [Both.modify]
  | cons c clues ih =>
    rw [List.map_cons, List.cons_append, readLines, (hw c (by simp)).read_text]
    simp only
    rw [ih fun c hc => hw c (List.mem_cons_of_mem _ hc)]
    cases d <;> simp [addClue, Both.modify, Clue.written]

theorem readLines_ignored {ls : List (List Char)} (h : ∀ l ∈ ls, Line.read l = .ignored) :
    readLines grouping (ls ++ rest) p = readLines grouping rest p := by
  induction ls with
  | nil => rfl
  | cons l ls ih =>
    rw [List.cons_append, readLines, h l (by simp)]
    exact ih fun l hl => h l (List.mem_cons_of_mem _ hl)

-- What is set above the clues.
def setAll (hs : List Heading) (p : Puzzle) : Puzzle := hs.foldl (fun p h => h.set p) p

@[simp] theorem setAll_nil (p : Puzzle) : setAll [] p = p := rfl

@[simp] theorem setAll_cons (h : Heading) (hs : List Heading) (p : Puzzle) :
    setAll (h :: hs) p = setAll hs (h.set p) := rfl

@[simp] theorem setAll_append (hs gs : List Heading) (p : Puzzle) :
    setAll (hs ++ gs) p = setAll gs (setAll hs p) := List.foldl_append

theorem clues_set (h : Heading) (p : Puzzle) : (h.set p).clues = p.clues := by
  cases h with
  | field f value => cases f <;> rfl
  | size d => rfl

theorem errors_set (h : Heading) (p : Puzzle) : (h.set p).errors = p.errors := by
  cases h with
  | field f value => cases f <;> rfl
  | size d => rfl

theorem source_set (h : Heading) (p : Puzzle) : (h.set p).source = p.source := by
  cases h with
  | field f value => cases f <;> rfl
  | size d => rfl

theorem grid_set (h : Heading) (p : Puzzle) : (h.set p).grid = p.grid := by
  cases h with
  | field f value => cases f <;> rfl
  | size d => rfl

-- What a line makes of the puzzle that has been read so far. One that says nothing, or only in which
-- direction the clues behind it run, leaves the puzzle as it is.
inductive LineStep (l : List Char) (p : Puzzle) : Puzzle → Prop where
  | heading (h : Heading) (hl : Line.read l = h.line) : LineStep l p (h.set p)
  | clue (d : Direction) (line : ClueLine) (hl : Line.read l = .clue line) :
      LineStep l p (p.addClue d (.ofLine line (String.ofList l)))
  | error (e : Error) (he : e = .noGrouping ∨ e = .unparseableLine (String.ofList l)) :
      LineStep l p { p with errors := p.errors ++ [e] }

-- What no line takes away is kept to the end.
theorem readLines_keeps {P : Puzzle → Prop} {ls : List (List Char)}
    (hstep : ∀ l ∈ ls, ∀ p q, LineStep l p q → P p → P q) (grouping : Option Direction) (hp : P p) :
    P (readLines grouping ls p) := by
  induction ls generalizing grouping p with
  | nil => exact hp
  | cons l ls ih =>
    have ih {q : Puzzle} := @ih q fun l hl => hstep l (List.mem_cons_of_mem _ hl)
    have hline {q : Puzzle} (h : LineStep l p q) : P q := hstep l List.mem_cons_self p q h hp
    rw [readLines]
    split
    · exact ih grouping hp
    · next f value hl => exact ih grouping (hline (.heading (.field f value) hl))
    · next d hl => exact ih grouping (hline (.heading (.size d) hl))
    · exact ih _ hp
    · next line hl =>
      cases grouping with
      | none => exact hline (.error _ (.inl rfl))
      | some d => exact ih _ (hline (.clue d line hl))
    · exact ih grouping (hline (.error _ (.inr rfl)))

theorem field?_set (h : Heading) (p : Puzzle) (f : Field) :
    (h.set p).field? f = (h.value? f).or (p.field? f) := by
  cases h with
  | field g value =>
    rw [Heading.set, Heading.value?]
    split
    · next heq =>
      subst heq
      rw [field?_setField, Option.some_or]
    · next hne => rw [field?_setField_of_ne value p (Ne.symm hne), Option.none_or]
  | size d => cases f <;> rfl

@[simp] theorem clues_setAll (hs : List Heading) (p : Puzzle) :
    (setAll hs p).clues = p.clues := by
  induction hs generalizing p with
  | nil => rfl
  | cons h hs ih => rw [setAll_cons, ih, clues_set]

@[simp] theorem errors_setAll (hs : List Heading) (p : Puzzle) :
    (setAll hs p).errors = p.errors := by
  induction hs generalizing p with
  | nil => rfl
  | cons h hs ih => rw [setAll_cons, ih, errors_set]

-- The value that a field is given last is the one it has.
theorem field?_setAll_eq (hs : List Heading) (p : Puzzle) (f : Field) :
    (setAll hs p).field? f = (hs.filterMap (Heading.value? f)).getLast?.or (p.field? f) := by
  induction hs generalizing p with
  | nil => simp
  | cons h hs ih =>
    rw [setAll_cons, ih, field?_set, List.filterMap_cons]
    cases h.value? f with
    | none => rfl
    | some value =>
      rw [List.getLast?_cons, Option.some_or, Option.some_or]
      cases (hs.filterMap (Heading.value? f)).getLast? <;> rfl

theorem dimensions_setAll_eq (hs : List Heading) (p : Puzzle) :
    (setAll hs p).dimensions = (hs.filterMap Heading.dimensions?).getLast?.getD p.dimensions := by
  induction hs generalizing p with
  | nil => rfl
  | cons h hs ih =>
    rw [setAll_cons, ih, List.filterMap_cons]
    cases h with
    | field f value => cases f <;> rfl
    | size d =>
      rw [Heading.dimensions?, List.getLast?_cons]
      cases (hs.filterMap Heading.dimensions?).getLast? <;> rfl

-- A field that is set once has the value it was given; a field that is not set keeps its own.
theorem field?_setAll {fs : List Field} (hnodup : fs.Nodup) (value? : Field → Option String)
    (p : Puzzle) (f : Field) :
    (setAll (fs.filterMap fun f => (value? f).map (Heading.field f)) p).field? f =
      if f ∈ fs then (value? f).or (p.field? f) else p.field? f := by
  induction fs generalizing p with
  | nil => simp
  | cons g fs ih =>
    rw [List.nodup_cons] at hnodup
    by_cases hgf : f = g
    · subst hgf
      cases hv : value? f with
      | none => simp [hv, ih hnodup.2]
      | some v => simp [hv, ih hnodup.2, hnodup.1, Heading.set]
    · cases hv : value? g with
      | none => simp [hv, ih hnodup.2, hgf]
      | some v => simp [hv, ih hnodup.2, hgf, Heading.set, field?_setField_of_ne v p hgf]

end Puzzle

namespace Document

theorem lines_eq (doc : Document) : doc.lines = doc.fields.map fieldLine ++ "across:" ::
    (doc.clues.across.map ClueLine.text ++ "down:" :: doc.clues.down.map ClueLine.text) := by
  simp [lines, Direction.all, Direction.name, Both.get]

theorem toList_lines {doc : Document} {hs : List Heading} (hfields : doc.fields = hs.map Heading.entry) :
    doc.lines.map String.toList = hs.map (fun h => (fieldLine h.entry).toList) ++
      "across:".toList :: (doc.clues.across.map (·.text.toList) ++
        "down:".toList :: doc.clues.down.map (·.text.toList)) := by
  rw [lines_eq, hfields]
  simp
  rfl

variable {doc : Document} {hs : List Heading}

theorem clean_of_mem_lines (hfields : doc.fields = hs.map Heading.entry)
    (hr : ∀ h ∈ hs, h.Readable) (hw : ∀ d, ∀ c ∈ doc.clues.get d, c.Writable) :
    ∀ l ∈ doc.lines.map String.toList, Clean l := by
  intro l hl
  rw [toList_lines hfields] at hl
  simp only [List.mem_append, List.mem_map, List.mem_cons] at hl
  rcases hl with ⟨h, hm, rfl⟩ | rfl | ⟨c, hc, rfl⟩ | rfl | ⟨c, hc, rfl⟩
  · exact Heading.clean_fieldLine (hr h hm)
  · decide
  · exact (hw .across c hc).clean_text
  · decide
  · exact (hw .down c hc).clean_text

theorem readLines_lines (hfields : doc.fields = hs.map Heading.entry)
    (hr : ∀ h ∈ hs, h.Readable) (hw : ∀ d, ∀ c ∈ doc.clues.get d, c.Writable)
    {grouping : Option Direction} {rest : List (List Char)} {p : Puzzle} (hp : p.clues = ⟨[], []⟩) :
    Puzzle.readLines grouping (doc.lines.map String.toList ++ rest) p =
      Puzzle.readLines (some .down) rest
        { Puzzle.setAll hs p with clues := doc.clues.map (·.map Clue.written) } := by
  have hacross : Line.read "across:".toList = .grouping .across := rfl
  have hdown : Line.read "down:".toList = .grouping .down := rfl
  rw [toList_lines hfields, List.append_assoc, Puzzle.readLines_headings hr, List.cons_append,
    Puzzle.readLines, hacross]
  simp only
  have hacrossClues : ∀ c ∈ doc.clues.across, c.Writable := hw .across
  have hdownClues : ∀ c ∈ doc.clues.down, c.Writable := hw .down
  rw [List.append_assoc, Puzzle.readLines_clues .across hacrossClues, List.cons_append,
    Puzzle.readLines, hdown]
  simp only
  rw [Puzzle.readLines_clues .down hdownClues]
  have hclues : (hs.foldl (fun p h => h.set p) p).clues = ⟨[], []⟩ :=
    (Puzzle.clues_setAll hs p).trans hp
  simp [Puzzle.setAll, hclues, Both.modify, Both.map]

-- A document may stand between lines that say nothing.
theorem read_framed (hfields : doc.fields = hs.map Heading.entry)
    (hr : ∀ h ∈ hs, h.Readable) (hw : ∀ d, ∀ c ∈ doc.clues.get d, c.Writable)
    {before after : List String}
    (hframe : ∀ l ∈ before ++ after, (∀ c ∈ l.toList, isLineEnd c = false) ∧
      Line.read (cleanLine l.toList) = .ignored) :
    Puzzle.read ("\n".intercalate (before ++ doc.lines ++ after)) =
      { Puzzle.setAll hs { source := "\n".intercalate (before ++ doc.lines ++ after) } with
        clues := doc.clues.map (·.map Clue.written) } := by
  have hclean := clean_of_mem_lines hfields hr hw
  have hkept : (doc.lines.map String.toList).map cleanLine = doc.lines.map String.toList :=
    (List.map_congr_left fun l hl => (hclean l hl).cleanLine_eq).trans (List.map_id _)
  have hcut : cleanLines ("\n".intercalate (before ++ doc.lines ++ after)).toList =
      (before.map fun l => cleanLine l.toList) ++ (doc.lines.map String.toList ++
        (after.map fun l => cleanLine l.toList)) := by
    rw [String.toList_intercalate]
    rw [show "\n".toList = ['\n'] from rfl, cleanLines_intercalate]
    · rw [List.map_append, List.map_append, List.map_append, List.map_append, hkept, List.map_map,
        List.map_map, List.append_assoc]
      rfl
    · simp [lines, Direction.all]
    · intro l hl
      obtain ⟨s, hs, rfl⟩ := List.mem_map.mp hl
      simp only [List.mem_append] at hs
      rcases hs with (hs | hs) | hs
      · exact (hframe s (by simp [hs])).1
      · exact (hclean _ (List.mem_map_of_mem hs)).noLineEnd
      · exact (hframe s (by simp [hs])).1
  have hbefore : ∀ l ∈ before.map fun l => cleanLine l.toList, Line.read l = .ignored := by
    intro l hl
    obtain ⟨s, hs, rfl⟩ := List.mem_map.mp hl
    exact (hframe s (by simp [hs])).2
  have hafter : ∀ l ∈ after.map fun l => cleanLine l.toList, Line.read l = .ignored := by
    intro l hl
    obtain ⟨s, hs, rfl⟩ := List.mem_map.mp hl
    exact (hframe s (by simp [hs])).2
  rw [Puzzle.read, hcut, Puzzle.readLines_ignored hbefore, readLines_lines hfields hr hw rfl]
  rw [← List.append_nil (after.map fun l => cleanLine l.toList), Puzzle.readLines_ignored hafter]
  rfl

theorem read_text (hfields : doc.fields = hs.map Heading.entry)
    (hr : ∀ h ∈ hs, h.Readable) (hw : ∀ d, ∀ c ∈ doc.clues.get d, c.Writable) :
    Puzzle.read doc.text =
      { Puzzle.setAll hs { source := doc.text } with
        clues := doc.clues.map (·.map Clue.written) } := by
  have h := @read_framed doc hs hfields hr hw [] [] (by simp)
  simpa [text] using h

end Document

end Cruciverb
