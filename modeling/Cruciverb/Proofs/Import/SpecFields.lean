import Cruciverb.Proofs.Document.Regeneration
import Cruciverb.Proofs.Import.SpecPlaces
import Cruciverb.Proofs.Import.SpecText

namespace Cruciverb

open Cruciverb.Text

theorem Field.Takes.trim_eq {f : Field} {value : String} (h : f.Takes value) :
    trim value.toList = value.toList := h.isValue.toTrimmed.trim_eq

theorem Field.Takes.trimmed_eq {f : Field} {value : String} (h : f.Takes value) :
    Import.trimmed value = value := by
  rw [Import.trimmed, h.trim_eq, String.ofList_toList]

namespace Puzzle

variable {p : Puzzle}

-- In the order in which they are taken from a spec.
def specOrder : List Field := [.name, .author, .editor, .copyright, .publisher]

-- The value of a field if there is more to it than blanks.
def said? (p : Puzzle) (f : Field) : Option String :=
  (p.field? f).filter fun value => !(trim value.toList).isEmpty

def specHeadings (p : Puzzle) : List Heading :=
  specOrder.filterMap (fun f => (p.said? f).map (.field f)) ++
    [.size p.dimensions, .field .pubdate p.pubdate]

theorem takes_of_said? (h : p.Legible) {f : Field} (hf : f ∈ specOrder) {value : String}
    (hv : p.said? f = some value) : f.Takes value := by
  rw [said?, Option.filter_eq_some_iff] at hv
  obtain ⟨hfield, hblank⟩ := hv
  refine h.takes hfield fun hdefault => ⟨?_, ?_⟩
  · rintro rfl
    cases hdefault
    exact absurd hblank (by decide)
  · rintro rfl
    exact absurd hf (by decide)

theorem field?_setAll_specHeadings (h : p.Legible) (source : String) {f : Field} (hf : f ≠ .version) :
    (setAll p.specHeadings { source }).field? f = p.field? f := by
  rw [specHeadings, setAll_append, setAll_cons, setAll_cons, setAll_nil]
  by_cases hdate : f = .pubdate
  · subst hdate
    exact field?_setField .pubdate p.pubdate _
  · have hmem : f ∈ specOrder := by
      cases f with
      | version => exact absurd rfl hf
      | pubdate => exact absurd rfl hdate
      | name | author | editor | copyright | publisher => decide
    have hsize (r : Puzzle) : ((Heading.size p.dimensions).set r).field? f = r.field? f := by
      cases f <;> rfl
    rw [Heading.set, field?_setField_of_ne _ _ hdate, hsize, field?_setAll (by decide), if_pos hmem]
    refine h.filter_or_default (fun value htakes => ?_) source
    rw [htakes.trim_eq]
    simpa using htakes.isValue.ne_nil

theorem dimensions_setAll_specHeadings (p : Puzzle) (source : String) :
    (setAll p.specHeadings { source }).dimensions = p.dimensions := by
  rw [specHeadings, setAll_append, setAll_cons, setAll_cons, setAll_nil]
  rfl

theorem readable_specHeadings (h : p.Legible) (hdate : Field.pubdate.Takes p.pubdate) :
    ∀ g ∈ p.specHeadings, g.Readable := by
  rw [specHeadings]
  simp only [List.forall_mem_append, List.forall_mem_cons]
  refine ⟨fun g hg => ?_, trivial, hdate, by simp⟩
  obtain ⟨f, hf, hg⟩ := List.mem_filterMap.mp hg
  obtain ⟨value, hvalue, rfl⟩ := Option.map_eq_some_iff.mp hg
  exact takes_of_said? h hf hvalue

end Puzzle

namespace Import

variable {v : Json}

theorem specFields_eq {fields : List Field} {value : Field → String}
    (h : ∀ f ∈ fields, stringField v f.key = .ok (value f)) :
    specFields v fields = .ok (fields.filterMap fun f =>
      if (trim (value f).toList).isEmpty then none else some (f.key, trimmed (value f))) := by
  induction fields with
  | nil => rfl
  | cons f fields ih =>
    rw [specFields, h f List.mem_cons_self, ih fun g hg => h g (List.mem_cons_of_mem _ hg),
      List.filterMap_cons]
    dsimp only
    split <;> rfl

theorem entry_of_said {p : Puzzle} (h : p.Legible) {f : Field} (hf : f ∈ Puzzle.specOrder) {value : String}
    (hvalue : p.field? f = some value) :
    (if (trim value.toList).isEmpty then none else some (f.key, trimmed value)) =
      ((p.said? f).map (Heading.field f)).map Heading.entry := by
  cases hblank : (trim value.toList).isEmpty with
  | true =>
    have hsaid : p.said? f = none := by rw [Puzzle.said?, hvalue, Option.filter_some, hblank]; rfl
    rw [hsaid]
    rfl
  | false =>
    have hsaid : p.said? f = some value := by
      rw [Puzzle.said?, hvalue, Option.filter_some, hblank]
      rfl
    rw [hsaid, (Puzzle.takes_of_said? h hf hsaid).trimmed_eq]
    rfl

theorem specDate_eq {date : String} (h : Field.pubdate.Takes date) (settings : Settings) :
    specDate date settings = date := by
  have hread := @Heading.read_fieldLine (.field .pubdate date) h
  have htext : ("pubdate: " ++ date).toList =
      (Document.fieldLine (Heading.field .pubdate date).entry).toList := by
    rw [Heading.entry, Heading.toList_fieldLine_entry, String.toList_append]
    rfl
  rw [specDate, htext, hread]
  rfl

end Import

namespace Spec.HeldBy

open Cruciverb.Import

variable {s : Spec} {v : Json}

theorem stringField_eq (hv : s.HeldBy v) : ∀ e ∈ [("author", s.author), ("editor", s.editor),
    ("copyright", s.copyright), ("publisher", s.publisher), ("date", s.date)],
    stringField v e.1 = .ok e.2 := by
  intro e he
  unfold stringField
  rw [hv.text e he]
  rfl

theorem find?_requiredFields (hv : s.HeldBy v) :
    requiredFields.find? (fun field => (v.member? field).isNone) = none := by
  have htext := hv.text
  simp only [List.forall_mem_cons] at htext
  obtain ⟨hauthor, heditor, hcopyright, hpublisher, hdate, -⟩ := htext
  have hsize : v.member? "size" ≠ none := by
    intro hnone
    have hrows := hv.rows
    rw [hnone] at hrows
    cases hrows
  have hclues : v.member? "clues" ≠ none := by
    intro hnone
    have hacross := hv.clues .across
    rw [hnone] at hacross
    cases hacross
  have hgrid : v.member? "grid" ≠ none := Option.isSome_iff_ne_none.mp hv.grid
  rw [List.find?_eq_none]
  simp [requiredFields, hauthor, heditor, hcopyright, hpublisher, hdate, hv.gridnums, hsize, hclues,
    hgrid]

theorem specName_eq (hv : s.HeldBy v) : specName v = (s.name.bind fun name =>
    if (trim name.toList).isEmpty then none else some (Field.name.key, trimmed name)).toList := by
  unfold specName
  rw [hv.name]
  cases s.name with
  | none => rfl
  | some name =>
    dsimp only [Option.map_some, Option.bind_some, Json.asString?]
    cases (trim name.toList).isEmpty <;> rfl

theorem specRows_eq (hv : s.HeldBy v) : specRows v = .ok s.side := by
  unfold specRows
  rw [hv.rows]
  rfl

end Spec.HeldBy

namespace Puzzle.Outcome

open Cruciverb.Import

variable {p q : Puzzle} {v : Json}

-- The entries of the lines that are made of some fields.
def saidEntries (p : Puzzle) (fields : List Field) : List (String × String) :=
  fields.filterMap fun f => ((p.said? f).map (Heading.field f)).map Heading.entry

theorem specName_eq (hq : p.Outcome q) (h : p.Legible) (hv : (Spec.ofPuzzle q).HeldBy v) :
    specName v = saidEntries p [.name] := by
  have hfield : (Spec.ofPuzzle q).name = p.field? .name := hq.field .name
  rw [hv.specName_eq, hfield, saidEntries, List.filterMap_cons, List.filterMap_nil]
  cases hvalue : p.field? .name with
  | none =>
    rw [said?, hvalue]
    rfl
  | some value =>
    rw [Option.bind_some, entry_of_said h (by decide) hvalue]
    cases p.said? .name <;> rfl

theorem specFields_eq (hq : p.Outcome q) (h : p.Legible) (hv : (Spec.ofPuzzle q).HeldBy v) :
    specFields v [.author, .editor, .copyright, .publisher] =
      .ok (saidEntries p [.author, .editor, .copyright, .publisher]) := by
  have hstring : ∀ f ∈ [Field.author, .editor, .copyright, .publisher],
      stringField v f.key = .ok ((q.field? f).getD "") := by
    have htext := hv.stringField_eq
    simp only [List.forall_mem_cons] at htext ⊢
    exact ⟨htext.1, htext.2.1, htext.2.2.1, htext.2.2.2.1, by simp⟩
  rw [Import.specFields_eq hstring]
  refine congrArg Except.ok (List.filterMap_congr fun f hf => ?_)
  have hvalue : p.field? f = some ((q.field? f).getD "") := by
    rw [← hq.field]
    cases f <;> first | rfl | exact absurd hf (by decide)
  exact entry_of_said h (List.mem_cons_of_mem _ hf) hvalue

theorem specHead_eq (hq : p.Outcome q) (h : p.Legible) (hl : p.Lawful)
    (hdate : Field.pubdate.Takes p.pubdate) (hv : (Spec.ofPuzzle q).HeldBy v) (settings : Settings) :
    ∃ places, specHead settings v = .ok (p.specHeadings.map Heading.entry, places) ∧
      ∀ e ∈ p.entries, places.get? e.id = some e.position := by
  refine ⟨_, ?_, fun e he => get?_numberedCells hq hl he⟩
  have hside : (Spec.ofPuzzle q).side = p.dimensions.side := by
    rw [Spec.ofPuzzle, hq.side]
    rfl
  have hplaces := readGridnums_eq p.dimensions.side q.starts
  have hgridnums : (v.member? "gridnums").getD .null =
      .array ((Spec.numberRows p.dimensions.side q.starts).map fun row => .array (row.map Json.nat)) := by
    rw [hv.gridnums, Option.getD_some, Spec.ofPuzzle, hq.side]
    rfl
  have hpubdate : stringField v "date" = .ok p.pubdate := by
    have hfield : (Spec.ofPuzzle q).date = p.pubdate := Option.some.inj (hq.field .pubdate)
    rw [← hfield]
    exact hv.stringField_eq ("date", _) (by simp)
  have hentries : saidEntries p [.name] ++ saidEntries p [.author, .editor, .copyright, .publisher] ++
      [Heading.entry (.size p.dimensions), Heading.entry (.field .pubdate p.pubdate)] =
      p.specHeadings.map Heading.entry := by
    rw [specHeadings, List.map_append, List.map_filterMap, saidEntries, saidEntries,
      ← List.filterMap_append]
    rfl
  rw [← hentries]
  unfold specHead
  rw [hv.find?_requiredFields]
  dsimp only
  rw [hv.specRows_eq, hside]
  dsimp only
  rw [hgridnums, hplaces]
  dsimp only
  rw [hq.specFields_eq h hv]
  dsimp only
  rw [hpubdate]
  dsimp only
  rw [hq.specName_eq h hv, hdate.trimmed_eq, specDate_eq hdate]
  rfl

end Puzzle.Outcome

end Cruciverb
