import Cruciverb.Proofs.Compilation
import Cruciverb.Proofs.Import.ExportTexts

namespace Cruciverb

namespace Import

open Cruciverb.Answer Cruciverb.Text Cruciverb.Xml

-- The metadata as a spec has them.
structure Metadata.Told (m : Metadata) (s : Spec) : Prop where
  name : s.name = some (kept (m.title.getD unspecified))
  author : s.author = kept (m.creator.getD unspecified)
  editor : s.editor = (m.editor.map kept).getD ({} : Puzzle).editor
  copyright : s.copyright = (m.copyright.map kept).getD ({} : Puzzle).copyright
  publisher : s.publisher = (m.publisher.map kept).getD ({} : Puzzle).publisher

-- A field is left with what has been kept of the one value that the export gives to it.
theorem Export.Of.field?_setAll {text : String} {e : Export} (h : e.Of text) {settings : Settings}
    {doc : Document} (hfields : doc.fields = e.metadata.fields settings e.sections.size)
    {hs : List Heading} {clues : Both (List ClueLine)} (hread : doc.ReadAs hs clues) {f : Field}
    (hf : f ≠ .pubdate) (p : Puzzle) :
    (Puzzle.setAll hs p).field? f = ((e.metadata.value? f).map kept).or (p.field? f) := by
  have hgiven : [Field.name, .author, .editor, .copyright, .publisher].Nodup := by decide
  refine hread.field?_setAll_entriesOf hgiven hfields
    (fun g v hv => (h.metadata.value?_spec hv).1) hf (fun hnot => ?_) p
  cases f with
  | version => rfl
  | pubdate => exact absurd rfl hf
  | name | author | editor | copyright | publisher => exact absurd (by decide) hnot

-- A valid puzzle from an export has its metadata and the bodies of its clues, all of them whole but for
-- those with a comment sign.
theorem compile_export {settings : Settings} {text : String} {c : Compilation}
    (hformat : SourceFormat.ofText text = .compilerExport)
    (hdate : ∀ ch ∈ settings.pubdate.toList, isLineEnd ch = false)
    (h : compile settings text = .ok c) (hv : c.Valid) :
    ∃ e s, Export.Of e text ∧ c.spec? = some s ∧ e.metadata.Told s ∧
      (∀ f v, e.metadata.value? f = some v → (kept v = v ↔ '#' ∉ v.toList)) ∧
      ∀ d, ∀ clue ∈ c.puzzle.clues.get d, ∃ resolved, (e.table.get d).get? clue.id = some resolved ∧
        resolved.From e.sections.Gives ∧ (clue.body = resolved.body ↔ '#' ∉ resolved.body.toList) := by
  obtain ⟨document, hconvert, herrors, hpuzzle⟩ := Compilation.exists_document h hv
  rw [hformat] at hconvert
  obtain ⟨doc, hdoc, rfl⟩ := exists_of_convert_compilerExport hconvert
  obtain ⟨e, he, hfields, hlines⟩ := fromCompilerExport_ok_iff.mp hdoc
  have hlegible := Puzzle.legible_read doc.text
  have hc := hv.projects h
  have hl : (Puzzle.read doc.text).Lawful :=
    (hlegible.validate_valid_iff herrors).mp (hpuzzle ▸ hc.puzzle)
  have hq : (Puzzle.read doc.text).Outcome c.puzzle := hpuzzle ▸ hlegible.outcome herrors hl
  have hends := he.inLine hdate hfields hlines
  obtain ⟨hs, clues, hread, hfield, hclues⟩ := hends.readAs herrors
  have hfield (f : Field) (hf : f ≠ .pubdate) : c.puzzle.field? f =
      ((e.metadata.value? f).map kept).or (({} : Puzzle).field? f) := by
    rw [hq.field, hfield, he.field?_setAll hfields hread hf]
  refine ⟨e, _, he, hc.spec, ?told, ?kept, ?bodies⟩
  case told =>
    have hor (o : Option String) (default : String) :
        (o.map kept).or (some default) = some ((o.map kept).getD default) := by
      cases o <;> rfl
    constructor
    case name => exact hfield .name (by decide)
    case author => exact Option.some.inj (hfield .author (by decide))
    case editor => exact Option.some.inj ((hfield .editor (by decide)).trans (hor _ _))
    case copyright => exact Option.some.inj ((hfield .copyright (by decide)).trans (hor _ _))
    case publisher => exact Option.some.inj ((hfield .publisher (by decide)).trans (hor _ _))
  case kept => exact fun f v hvalue => kept_eq_self_iff (he.metadata.value?_spec hvalue).1
  case bodies =>
    intro d settled hsettled
    rw [hq.clues, Both.get_map] at hsettled
    obtain ⟨clue, hclue, rfl⟩ := List.mem_map.mp hsettled
    have hmem : clue.toClueLine ∈ clues.get d := hclues d ▸ List.mem_map_of_mem hclue
    obtain ⟨line, hline, hl⟩ := hread.exists_line hmem
    obtain ⟨resolved, hresolved, hfrom, hbody, hanswer⟩ := he.exists_clue hlines hline
    rcases line.read_cleanLine with hnone | ⟨l, hl', hid, -, hkept⟩
    · rw [hnone] at hl
      cases hl
    · obtain rfl : l = clue.toClueLine := Line.clue.inj (hl'.symm.trans hl)
      rw [Clue.settled_id, hid, Clue.settled_body]
      refine ⟨resolved, hresolved, hfrom, fun heq => ?_, fun hno => ?_⟩
      · -- no body that has been read holds a comment sign
        rw [← heq]
        exact (hlegible.writable d clue hclue).body.noComment
      · rw [← hbody] at hno ⊢
        exact hkept (hbody ▸ hfrom.isBody (hbody ▸ hno)) hanswer

section Orderly

variable {settings : Settings} {cs : List Char} {doc : Document}

-- The cells are listed along the rows.
def InRows (cells : List Element) (size : Nat) : Prop :=
  cells.map (fun cell => (cellPosition cell size).toOption) = (Coord.cells size).map some

instance (cells : List Element) (size : Nat) : Decidable (InRows cells size) :=
  inferInstanceAs (Decidable (_ = _))

theorem InRows.exists_cell {cells : List Element} {size : Nat} (h : InRows cells size) {c : Coord}
    (hc : c.Within size) : ∃ cell ∈ cells, cellPosition cell size = .ok c := by
  have hmem : some c ∈ (Coord.cells size).map some := List.mem_map_of_mem (Coord.mem_cells.mpr hc)
  rw [← h] at hmem
  obtain ⟨cell, hcell, hposition⟩ := List.mem_map.mp hmem
  exact ⟨cell, hcell, ok_of_toOption hposition⟩

-- The document of an export that lists its cells along the rows. There is no need to look for a place
-- that is left out.
def orderlyDocument? (settings : Settings) (cs : List Char) : Option Document :=
  (Event.read? (protect cs)).bind fun events =>
  (Element.ofEvents events).toOption.bind fun root =>
  (findSections root).toOption.bind fun sections =>
  (CellTable.start sections.size).toOption.bind fun t =>
  (t.putAll sections.size (sections.grid.childrenNamed "cell")).toOption.bind fun t =>
  if InRows (sections.grid.childrenNamed "cell") sections.size then
    (exportDocument settings sections t.shape t.numbers).toOption
  else none

theorem fromCompilerExport_of_orderly (h : orderlyDocument? settings cs = some doc) :
    fromCompilerExport settings (String.ofList cs) = .ok doc := by
  obtain ⟨events, hevents, h⟩ := Option.bind_eq_some_iff.mp h
  obtain ⟨root, hroot, h⟩ := Option.bind_eq_some_iff.mp h
  obtain ⟨sections, hsections, h⟩ := Option.bind_eq_some_iff.mp h
  obtain ⟨t₀, hstart, h⟩ := Option.bind_eq_some_iff.mp h
  obtain ⟨t, hput, h⟩ := Option.bind_eq_some_iff.mp h
  split at h
  · next hrows =>
    have hread : Element.read (String.ofList cs) = .ok root := by
      rw [Element.read, String.toList_ofList, hevents]
      exact ok_of_toOption hroot
    have hgrid : readGrid sections.grid sections.size = .ok (t.shape, t.numbers) :=
      readGrid_ok_iff.mpr ⟨t₀, t, ok_of_toOption hstart, ok_of_toOption hput,
        fun _ => hrows.exists_cell, rfl, rfl⟩
    simp only [fromCompilerExport, hread, ok_of_toOption hsections, hgrid, ok_of_toOption h]
  · cases h

end Orderly

-- The cells of a grid with one word across.
def cellContents (c : Coord) : List Char :=
  if c = ⟨1, 1⟩ then "\" number=\"1\" solution=\"C\"/>".toList
  else if c = ⟨2, 1⟩ then "\" solution=\"A\"/>".toList
  else if c = ⟨3, 1⟩ then "\" solution=\"T\"/>".toList
  else "\" type=\"block\"/>".toList

def cellTag (c : Coord) : List Char :=
  "<cell x=\"".toList ++ (Nat.toDigits 10 c.x ++ ("\" y=\"".toList ++
    (Nat.toDigits 10 c.y ++ cellContents c)))

-- A number sign in the title.
def numberedExport : List Char :=
  "<?xml version=\"1.0\"?><crossword-compiler><rectangular-puzzle>".toList ++
    ("<metadata><title>Puzzle #5</title></metadata>".toList ++
    ("<crossword><grid width=\"15\" height=\"15\">".toList ++
    ((Coord.cells 15).flatMap cellTag ++
    ("</grid><word/><clues><title>Across</title>".toList ++
    ("<clue number=\"1\" format=\"3\">Pet</clue></clues>".toList ++
    "</crossword></rectangular-puzzle></crossword-compiler>".toList)))))

def numberedDocument : Document where
  fields := [("name", "Puzzle #5"), ("author", "UNSPECIFIED"), ("size", "15x15"),
    ("pubdate", "2019/05/06")]
  clues := ⟨[⟨⟨1, 1⟩, 1, "Pet", "CAT"⟩], []⟩

theorem fromCompilerExport_numberedExport :
    fromCompilerExport { pubdate := "2019/05/06" } (String.ofList numberedExport) =
      .ok numberedDocument :=
  fromCompilerExport_of_orderly (by decide +kernel)

-- The title is cut short, and nothing is reported.
theorem compile_export_numberedExport :
    ∃ c e s, SourceFormat.ofText (String.ofList numberedExport) = .compilerExport ∧
      (∀ ch ∈ "2019/05/06".toList, isLineEnd ch = false) ∧
      compile { pubdate := "2019/05/06" } (String.ofList numberedExport) = .ok c ∧ c.Valid ∧
      Export.Of e (String.ofList numberedExport) ∧ c.spec? = some s ∧ e.metadata.Told s ∧
      e.metadata.title.getD unspecified = "Puzzle #5" ∧ s.name = some "Puzzle" := by
  have hformat : SourceFormat.ofText (String.ofList numberedExport) = .compilerExport := by
    rw [SourceFormat.ofText, String.toList_ofList]
    decide +kernel
  have hdate : ∀ ch ∈ "2019/05/06".toList, isLineEnd ch = false := by decide
  have hdoc := fromCompilerExport_numberedExport
  have hread : (Puzzle.read numberedDocument.text).errors = [] := by decide +kernel
  have hvalid : (Puzzle.read numberedDocument.text).validate.Valid := by decide +kernel
  have hv := (Compilation.valid_ofPuzzle_iff .compilerExport none).mpr hvalid
  have hconvert : convert { pubdate := "2019/05/06" } .compilerExport (String.ofList numberedExport) =
      .ok numberedDocument.text := by
    rw [convert, hdoc]
    rfl
  have hc := Compilation.compile_of_convert hformat hconvert hread
  obtain ⟨e, s, he, hs, htold, -, -⟩ := compile_export hformat hdate hc hv
  obtain ⟨e', he', hfields, -⟩ := fromCompilerExport_ok_iff.mp hdoc
  obtain rfl : e = e' := he.unique he'
  have htitle : e.metadata.title.getD unspecified = "Puzzle #5" :=
    (Prod.mk.inj (List.cons.inj hfields).1).2.symm
  refine ⟨_, e, s, hformat, hdate, hc, hv, he, hs, htold, htitle, ?_⟩
  rw [htold.name, htitle]
  decide +kernel

end Import

end Cruciverb
