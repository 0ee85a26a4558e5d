import Cruciverb.Proofs.Document.Remains
import Cruciverb.Proofs.Import.ExportCells
import Cruciverb.Proofs.Import.ExportLines

namespace Cruciverb

open Cruciverb.Answer Cruciverb.Text Cruciverb.Xml

namespace Xml

theorem restore_spec (c : Char) : restore c ≠ [] ∧ ∀ d ∈ restore c, d = c ∨ isBlank d = false := by
  rw [restore]
  split
  · exact ⟨by decide, fun d hd => .inr ((by decide : ∀ d ∈ italicTag, isBlank d = false) d hd)⟩
  · split
    · exact ⟨by decide, fun d hd => .inr ((by decide : ∀ d ∈ italicEndTag, isBlank d = false) d hd)⟩
    · simp

theorem trimmed_restored {cs : List Char} (h : Trimmed cs) : Trimmed (cs.flatMap restore) := by
  constructor
  · intro d hd
    cases cs with
    | nil => cases hd
    | cons c cs =>
      obtain ⟨hne, hmem⟩ := restore_spec c
      obtain ⟨first, rest, hrestore⟩ := List.exists_cons_of_ne_nil hne
      rw [List.flatMap_cons, hrestore, List.cons_append, List.head?_cons, Option.some.injEq] at hd
      rcases hmem d (by rw [hrestore, hd]; exact List.mem_cons_self) with rfl | hd
      · exact h.head d rfl
      · exact hd
  · intro d hd
    rcases List.eq_nil_or_concat cs with rfl | ⟨front, c, rfl⟩
    · cases hd
    · obtain ⟨hne, hmem⟩ := restore_spec c
      obtain ⟨last, hlast⟩ := Option.isSome_iff_exists.mp (List.getLast?_isSome.mpr hne)
      rw [List.concat_eq_append, List.flatMap_append, List.flatMap_singleton, List.getLast?_append, hlast,
        Option.some_or, Option.some.injEq] at hd
      rcases hmem d (hd ▸ List.mem_of_getLast? hlast) with rfl | hd
      · exact h.last d (by simp)
      · exact hd

namespace Element

theorem trimmed_textContent (e : Element) : Trimmed e.textContent.toList := by
  rw [textContent, String.toList_ofList]
  exact trimmed_restored (trimmed_collapse _)

theorem noLineEnd_textContent (e : Element) : ∀ c ∈ e.textContent.toList, isLineEnd c = false := by
  intro c hc
  rw [textContent, String.toList_ofList] at hc
  obtain ⟨b, hb, hc⟩ := List.mem_flatMap.mp hc
  rcases (restore_spec b).2 c hc with rfl | hc
  · exact noLineEnd_collapse c hb
  · exact isLineEnd_eq_false hc

end Element

end Xml

namespace Import

section Clues

-- A text that the export gives to a clue.
def Sections.Gives (sections : Sections) (text : String) : Prop :=
  ∃ group ∈ sections.crossword.childrenNamed "clues", ∃ e ∈ group.childrenNamed "clue",
    e.textContent = text ∧ text ≠ ""

theorem readListedClue_inv {e : Element} {clue : ListedClue} (h : readListedClue e = .ok clue) :
    e.textContent = clue.text ∧ clue.text ≠ "" := by
  simp only [readListedClue, bind_ok_iff] at h
  obtain ⟨number, -, format, -, h⟩ := h
  split at h
  · cases h
  · next hne =>
    cases h
    exact ⟨rfl, by simpa using hne⟩

theorem exists_of_mem_readListedClues {es : List Element} {listed : List ListedClue}
    (h : readListedClues es = .ok listed) :
    ∀ clue ∈ listed, ∃ e ∈ es, readListedClue e = .ok clue := by
  induction es generalizing listed with
  | nil =>
    cases h
    simp
  | cons e es ih =>
    simp only [readListedClues, bind_ok_iff, pure_ok_iff] at h
    obtain ⟨first, hfirst, more, hmore, rfl⟩ := h
    rw [List.forall_mem_cons]
    refine ⟨⟨e, List.mem_cons_self, hfirst⟩, fun clue hclue => ?_⟩
    obtain ⟨e', he', hread⟩ := ih hmore clue hclue
    exact ⟨e', List.mem_cons_of_mem _ he', hread⟩

theorem exists_of_mem_readGroups {groups : List Element} {before listed : Both (List ListedClue)}
    (h : readGroups before groups = .ok listed) : ∀ d, ∀ clue ∈ listed.get d,
      clue ∈ before.get d ∨ ∃ group ∈ groups, ∃ e ∈ group.childrenNamed "clue",
        readListedClue e = .ok clue := by
  induction groups generalizing before with
  | nil =>
    cases h
    exact fun _ _ => .inl
  | cons group groups ih =>
    simp only [readGroups, bind_ok_iff] at h
    obtain ⟨e, hdirection, clues, hclues, h⟩ := h
    intro d clue hclue
    rcases ih h d clue hclue with hbefore | ⟨other, hother, hread⟩
    · rw [Both.get_modify] at hbefore
      split at hbefore
      · rcases List.mem_append.mp hbefore with hbefore | hnew
        · exact .inl hbefore
        · exact .inr ⟨group, List.mem_cons_self, exists_of_mem_readListedClues hclues clue hnew⟩
      · exact .inl hbefore
    · exact .inr ⟨other, List.mem_cons_of_mem _ hother, hread⟩

theorem gives_readGroups {sections : Sections} {listed : Both (List ListedClue)}
    (h : readGroups ⟨[], []⟩ (sections.crossword.childrenNamed "clues") = .ok listed) :
    ∀ d, ∀ clue ∈ listed.get d, sections.Gives clue.text := by
  intro d clue hclue
  rcases exists_of_mem_readGroups h d clue hclue with hnone | ⟨group, hgroup, e, he, hread⟩
  · cases d <;> cases hnone
  · exact ⟨group, hgroup, e, he, readListedClue_inv hread⟩

variable {sections : Sections} {clue : ResolvedClue}

theorem ResolvedClue.From.text_spec (h : clue.From sections.Gives) : clue.text.toList ≠ [] ∧
    (∀ c ∈ clue.text.toList, isLineEnd c = false) ∧
      ∀ c, clue.text.toList.head? = some c → isBlank c = false := by
  rcases h.text with ⟨group, -, e, -, htext, hne⟩ | ⟨primary, d, htext, -⟩
  · rw [← htext] at hne ⊢
    exact ⟨by simpa using hne, e.noLineEnd_textContent, e.trimmed_textContent.head⟩
  · have hreference : (reference primary d).toList =
        "See ".toList ++ (Nat.toDigits 10 primary ++ ' ' :: d.name.toList) := by
      simp [reference]
    have hname : Whole d.name.toList := by cases d <;> decide
    have hwhole : Whole (reference primary d).toList := by
      rw [hreference, whole_append, whole_append, whole_cons]
      exact ⟨by decide, ClueLine.whole_toDigits primary, by decide, hname⟩
    rw [htext]
    refine ⟨by simp [hreference], hwhole.noLineEnd, fun c hc => ?_⟩
    rw [hreference] at hc
    cases hc
    decide

theorem ResolvedClue.From.noLineEnd_body (h : clue.From sections.Gives) :
    ∀ c ∈ clue.body.toList, isLineEnd c = false := by
  obtain ⟨front, hbody, hfront, -⟩ := h.sequenced.exists_front
  rw [hbody, List.forall_mem_append]
  exact ⟨hfront.noLineEnd, h.text_spec.2.1⟩

-- Nothing but a comment sign keeps a document from holding a clue of an export.
theorem ResolvedClue.From.isBody (h : clue.From sections.Gives) (hno : '#' ∉ clue.body.toList) :
    Line.IsBody clue.body.toList := by
  obtain ⟨front, hbody, -, -⟩ := h.sequenced.exists_front
  obtain ⟨hne, hends, hhead⟩ := h.text_spec
  refine h.sequenced.isBody ⟨hends, fun hmem => hno ?_⟩ hne hhead
  rw [hbody]
  exact List.mem_append_right _ hmem

end Clues

section Fields

theorem metadataText_inv {metadata : Element} {name v : String}
    (h : metadataText metadata name = .ok (some v)) : ∃ e : Element, e.textContent = v ∧ v ≠ "" := by
  rw [metadataText] at h
  cases hchild : metadata.optionalChild name with
  | error e =>
    rw [hchild] at h
    cases h
  | ok child =>
    rw [hchild] at h
    obtain ⟨hmap, hne⟩ := Option.filter_eq_some_iff.mp (Except.ok.inj h)
    obtain ⟨e, -, htext⟩ := Option.map_eq_some_iff.mp hmap
    exact ⟨e, htext, by simpa using hne⟩

-- What the metadata of an export say.
structure Metadata where
  title : Option String
  creator : Option String
  editor : Option String
  copyright : Option String
  publisher : Option String

namespace Metadata

structure Of (m : Metadata) (metadata : Element) : Prop where
  title : metadataText metadata "title" = .ok m.title
  creator : metadataText metadata "creator" = .ok m.creator
  editor : metadataText metadata Field.editor.key = .ok m.editor
  copyright : metadataText metadata Field.copyright.key = .ok m.copyright
  publisher : metadataText metadata Field.publisher.key = .ok m.publisher

-- The value for a field. A name and an author are always given.
def value? (m : Metadata) : Field → Option String
  | .name => some (m.title.getD unspecified)
  | .author => some (m.creator.getD unspecified)
  | .editor => m.editor
  | .copyright => m.copyright
  | .publisher => m.publisher
  | .version | .pubdate => none

def entry (m : Metadata) (f : Field) : List (String × String) := ((m.value? f).map (f.key, ·)).toList

def fields (m : Metadata) (settings : Settings) (size : Nat) : List (String × String) :=
  [Field.name, Field.author, Field.editor, Field.copyright, Field.publisher].flatMap m.entry ++
    [("size", toString size ++ "x" ++ toString size), (Field.pubdate.key, settings.pubdate)]

theorem eq_of_mem_fields {m : Metadata} {settings : Settings} {size : Nat} {entry : String × String}
    (h : entry ∈ m.fields settings size) : (∃ f v, m.value? f = some v ∧ entry = (f.key, v)) ∨
      entry = ("size", toString size ++ "x" ++ toString size) ∨
        entry = (Field.pubdate.key, settings.pubdate) := by
  rcases List.mem_append.mp h with h | h
  · obtain ⟨f, -, h⟩ := List.mem_flatMap.mp h
    rw [Metadata.entry, Option.mem_toList] at h
    obtain ⟨v, hv, rfl⟩ := Option.map_eq_some_iff.mp h
    exact .inl ⟨f, v, hv, rfl⟩
  · rw [List.mem_cons, List.mem_singleton] at h
    exact .inr h

theorem Of.value?_spec {m : Metadata} {metadata : Element} (h : m.Of metadata) {f : Field} {v : String}
    (hv : m.value? f = some v) : Trimmed v.toList ∧ ∀ c ∈ v.toList, isLineEnd c = false := by
  have hcontent {name v : String} (h : metadataText metadata name = .ok (some v)) :
      Trimmed v.toList ∧ ∀ c ∈ v.toList, isLineEnd c = false := by
    obtain ⟨e, rfl, -⟩ := metadataText_inv h
    exact ⟨e.trimmed_textContent, e.noLineEnd_textContent⟩
  have hdefault {name : String} {o : Option String} (h : metadataText metadata name = .ok o) :
      Trimmed (o.getD unspecified).toList ∧ ∀ c ∈ (o.getD unspecified).toList, isLineEnd c = false := by
    cases o with
    | none => exact ⟨⟨by decide, by decide⟩, by decide⟩
    | some v => exact hcontent h
  cases f with
  | version => cases hv
  | name => exact Option.some.inj hv ▸ hdefault h.title
  | author => exact Option.some.inj hv ▸ hdefault h.creator
  | editor => exact hcontent (h.editor.trans (congrArg Except.ok hv))
  | copyright => exact hcontent (h.copyright.trans (congrArg Except.ok hv))
  | publisher => exact hcontent (h.publisher.trans (congrArg Except.ok hv))
  | pubdate => cases hv

theorem Of.unique {m m' : Metadata} {metadata : Element} (h : m.Of metadata) (h' : m'.Of metadata) :
    m = m' := by
  obtain ⟨title, creator, editor, copyright, publisher⟩ := m
  obtain ⟨title', creator', editor', copyright', publisher'⟩ := m'
  obtain rfl : title = title' := Except.ok.inj (h.title.symm.trans h'.title)
  obtain rfl : creator = creator' := Except.ok.inj (h.creator.symm.trans h'.creator)
  obtain rfl : editor = editor' := Except.ok.inj (h.editor.symm.trans h'.editor)
  obtain rfl : copyright = copyright' := Except.ok.inj (h.copyright.symm.trans h'.copyright)
  obtain rfl : publisher = publisher' := Except.ok.inj (h.publisher.symm.trans h'.publisher)
  rfl

end Metadata

theorem optionalField_ok_iff {metadata : Element} {f : Field} {l : List (String × String)} :
    optionalField metadata f = .ok l ↔
      ∃ o, metadataText metadata f.key = .ok o ∧ l = (o.map (f.key, ·)).toList := by
  rw [optionalField]
  cases metadataText metadata f.key with
  | error e => simp [Except.map]
  | ok o => simp [Except.map, eq_comm]

theorem exportFields_ok_iff {settings : Settings} {metadata : Element} {size : Nat}
    {fields : List (String × String)} : exportFields settings metadata size = .ok fields ↔
      ∃ m : Metadata, m.Of metadata ∧ fields = m.fields settings size := by
  simp only [exportFields, bind_ok_iff, pure_ok_iff, optionalField_ok_iff]
  constructor
  · rintro ⟨title, htitle, creator, hcreator, _, ⟨editor, heditor, rfl⟩, _, ⟨copyright, hcopyright, rfl⟩,
      _, ⟨publisher, hpublisher, rfl⟩, rfl⟩
    refine ⟨⟨title, creator, editor, copyright, publisher⟩,
      ⟨htitle, hcreator, heditor, hcopyright, hpublisher⟩, ?_⟩
    simp [Metadata.fields, Metadata.entry, Metadata.value?]
  · rintro ⟨m, h, rfl⟩
    refine ⟨_, h.title, _, h.creator, _, ⟨_, h.editor, rfl⟩, _, ⟨_, h.copyright, rfl⟩, _,
      ⟨_, h.publisher, rfl⟩, ?_⟩
    simp [Metadata.fields, Metadata.entry, Metadata.value?]

end Fields

-- All that is read of an export.
structure Export where
  root : Element
  sections : Sections
  shape : Shape
  numbers : Table Coord
  listed : Both (List ListedClue)
  table : ClueTable
  metadata : Metadata

namespace Export

structure Of (e : Export) (text : String) : Prop where
  root : Element.read text = .ok e.root
  sections : findSections e.root = .ok e.sections
  grid : readGrid e.sections.grid e.sections.size = .ok (e.shape, e.numbers)
  listed : readGroups ⟨[], []⟩ (e.sections.crossword.childrenNamed "clues") = .ok e.listed
  table : resolveClues ((e.numbers.map e.shape.startsAt).map Starts.lengths) e.listed = .ok e.table
  metadata : e.metadata.Of e.sections.metadata

-- There is one way to read a text.
theorem Of.unique {e e' : Export} {text : String} (h : e.Of text) (h' : e'.Of text) : e = e' := by
  obtain ⟨root, sections, shape, numbers, listed, table, metadata⟩ := e
  obtain ⟨root', sections', shape', numbers', listed', table', metadata'⟩ := e'
  obtain rfl : root = root' := Except.ok.inj (h.root.symm.trans h'.root)
  obtain rfl : sections = sections' := Except.ok.inj (h.sections.symm.trans h'.sections)
  obtain ⟨rfl, rfl⟩ : shape = shape' ∧ numbers = numbers' :=
    Prod.mk.inj (Except.ok.inj (h.grid.symm.trans h'.grid))
  obtain rfl : listed = listed' := Except.ok.inj (h.listed.symm.trans h'.listed)
  obtain rfl : table = table' := Except.ok.inj (h.table.symm.trans h'.table)
  obtain rfl : metadata = metadata' := h.metadata.unique h'.metadata
  rfl

def lines (e : Export) : Except Failure (Both (List ClueLine)) :=
  exportLines e.table (e.numbers.map e.shape.startsAt) e.numbers.entries

end Export

theorem exportDocument_inv {settings : Settings} {sections : Sections} {shape : Shape}
    {numbers : Table Coord} {doc : Document}
    (h : exportDocument settings sections shape numbers = .ok doc) :
    ∃ listed table, ∃ m : Metadata,
      readGroups ⟨[], []⟩ (sections.crossword.childrenNamed "clues") = .ok listed ∧
      resolveClues ((numbers.map shape.startsAt).map Starts.lengths) listed = .ok table ∧
      m.Of sections.metadata ∧ doc.fields = m.fields settings sections.size ∧
      exportLines table (numbers.map shape.startsAt) numbers.entries = .ok doc.clues := by
  simp only [exportDocument, bind_ok_iff, pure_ok_iff, refusing_ok_iff, exportFields_ok_iff] at h
  obtain ⟨listed, hlisted, table, htable, fields, ⟨m, hm, hfields⟩, lines, hlines, rfl⟩ := h
  exact ⟨listed, table, m, hlisted, htable, hm, hfields, hlines⟩

theorem fromCompilerExport_ok_iff {settings : Settings} {text : String} {doc : Document} :
    fromCompilerExport settings text = .ok doc ↔ ∃ e : Export, e.Of text ∧
      doc.fields = e.metadata.fields settings e.sections.size ∧ e.lines = .ok doc.clues := by
  constructor
  · intro h
    unfold fromCompilerExport at h
    split at h
    · cases h
    next root hroot =>
    split at h
    · cases h
    next sections hsections =>
    split at h
    · cases h
    next shape numbers hgrid =>
    obtain ⟨listed, table, m, hlisted, htable, hm, hfields, hlines⟩ :=
      exportDocument_inv h
    exact ⟨⟨root, sections, shape, numbers, listed, table, m⟩,
      ⟨hroot, hsections, hgrid, hlisted, htable, hm⟩, hfields, hlines⟩
  · rintro ⟨e, he, hfields, hlines⟩
    simp only [fromCompilerExport, he.root, he.sections, he.grid, exportDocument, bind_ok_iff,
      pure_ok_iff, refusing_ok_iff, exportFields_ok_iff]
    exact ⟨_, he.listed, _, he.table, _, ⟨_, he.metadata, hfields⟩, _, hlines, rfl⟩

namespace Export.Of

variable {e : Export} {text : String}

-- Each line has a clue of the export, and an answer without a blank.
theorem exists_clue (h : e.Of text) {lines : Both (List ClueLine)} (hlines : e.lines = .ok lines)
    {d : Direction} {line : ClueLine} (hline : line ∈ lines.get d) :
    ∃ clue, (e.table.get d).get? line.id = some clue ∧ clue.From e.sections.Gives ∧
      line.body = clue.body ∧ ∀ c ∈ line.answer.toList, isBlank c = false := by
  obtain ⟨⟨id, position⟩, -, slot, hslot, hanswer⟩ := exists_of_mem_exportLines hlines d line hline
  obtain ⟨clue, f, hclue, -, -, rfl⟩ := answerLine_inv hanswer
  refine ⟨clue, hclue, from_resolveClues (gives_readGroups h.listed) h.table d id clue hclue, rfl, ?_⟩
  have hscan : ∀ l ∈ slot, isBlank l = false := by
    rw [Table.get?_map] at hslot
    cases hposition : e.numbers.get? id with
    | none =>
      rw [hposition] at hslot
      cases d <;> cases hslot
    | some c =>
      rw [hposition, Option.map_some, Option.getD_some, Shape.get_startsAt] at hslot
      split at hslot
      · cases hslot
        exact (inked_readGrid h.grid).scan
      · cases hslot
  rw [String.toList_ofList]
  intro c hc
  rcases mem_weave hc with ⟨part, hpart, hc⟩ | hsep
  · exact hscan c (Format.mem_of_mem_cut hpart c hc)
  · exact isBlank_of_isSeparator hsep

-- No text of an export ends its line; only the date of the settings could.
theorem inLine (h : e.Of text) {settings : Settings}
    (hdate : ∀ c ∈ settings.pubdate.toList, isLineEnd c = false) {doc : Document}
    (hfields : doc.fields = e.metadata.fields settings e.sections.size)
    (hlines : e.lines = .ok doc.clues) : doc.InLine := by
  constructor
  case fields =>
    intro entry hentry
    rw [hfields] at hentry
    rcases Metadata.eq_of_mem_fields hentry with ⟨f, v, hv, rfl⟩ | rfl | rfl
    · exact ⟨.inr ⟨f, rfl⟩, (h.metadata.value?_spec hv).2⟩
    · exact ⟨.inl rfl, Document.noLineEnd_sizeText _⟩
    · exact ⟨.inr ⟨.pubdate, rfl⟩, hdate⟩
  case clues =>
    intro d line hline
    obtain ⟨clue, -, hfrom, hbody, hanswer⟩ := h.exists_clue hlines hline
    rw [hbody]
    exact ⟨hfrom.noLineEnd_body, fun c hc => isLineEnd_eq_false (hanswer c hc)⟩

end Export.Of

end Import

end Cruciverb
