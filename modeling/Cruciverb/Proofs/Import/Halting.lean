import Cruciverb.Proofs.Import.CellAccess
import Cruciverb.Proofs.Import.ClueLists
import Cruciverb.Proofs.Import.ExportTexts
import Cruciverb.Proofs.Import.SpecClues
import Cruciverb.SourceFormat

namespace Cruciverb.Import

open Cruciverb.Answer Cruciverb.Text Cruciverb.Xml
open Shape (cellLimit sideLimit)

namespace QuickSlow

-- A clue that has a slot, but lengths that no word can add up.
def Overflows (t : Template) (d : Direction) (clue : Listed) : Prop :=
  ∃ cell slot, t.numbering.get? clue.id = some cell ∧ cell.starts.get d = some slot ∧
    wordLimit ≤ clue.format.size

end QuickSlow

-- An item whose lengths no word can add up, or one that asks for more letters than a text can have.
def SpecHalts (d : Direction) (fault : Fault) (pair : Json × Option Json) : Prop :=
  ∃ clue, readSpecClue pair.1 ("clues." ++ d.name) = .ok clue ∧
    (fault = .overflow ∧ wordLimit ≤ clue.size ∨
      fault = .tooLarge ∧ pair.2 = none ∧ textLimit ≤ clue.size ∧ clue.size < wordLimit)

-- The same for the items of a direction, those before having their lines.
def SpecHaltsIn (spec : Json) (places : Table Coord) (fault : Fault) (d : Direction) : Prop :=
  ∃ clues answers, listedClues spec d = .ok clues ∧ listedAnswers spec d clues.length = .ok answers ∧
    FirstIn (fun pair => ∃ line, specClueLine d places pair.1 pair.2 = .ok line) (SpecHalts d fault)
      (clues.zip answers)

-- An answer in the grid whose clue has lengths that no word can add up.
def ClueTable.Overflows (t : ClueTable) (id : Nat) (starts : Starts (List Char)) (d : Direction) : Prop :=
  ∃ slot clue f, starts.get d = some slot ∧ (t.get d).get? id = some clue ∧
    Format.ofString clue.format = .ok f ∧ wordLimit ≤ f.size

namespace Export

def startsOf (e : Export) (id : Nat) : Starts (List Char) :=
  ((e.numbers.map e.shape.startsAt).get? id).getD ⟨none, none⟩

-- The line of an answer can be written.
def Writes (e : Export) (number : Nat × Coord) (d : Direction) : Prop :=
  ∀ slot, (e.startsOf number.1).get d = some slot →
    ∃ line, answerLine e.table number.1 number.2 d slot = .ok line

-- The first answer that cannot be written has lengths that no word can add up.
def Overflows (e : Export) : Prop :=
  FirstIn (fun number => ∀ d, e.Writes number d)
    (fun number => FirstIn (e.Writes number) (e.table.Overflows number.1 (e.startsOf number.1))
      Direction.all) e.numbers.entries

end Export

-- All that stops the machine at a text. Nothing before the place where it stops is refused.
inductive Halts (settings : Settings) (text : String) : SourceFormat → Fault → Prop where
  | list {list : QuickSlow.ClueList} {t : Template}
    (read : QuickSlow.readLines none (cleanLines text.toList) .empty = .ok list)
    (found : Template.findByAcross? settings.templates (list.clues.across.map (·.id)) = some t)
    (first : FirstIn (fun d => ∃ lines, List.Forall₂ (QuickSlow.Placed t d) (list.clues.get d) lines)
      (fun d => FirstIn (fun clue => ∃ line, QuickSlow.Placed t d clue line) (QuickSlow.Overflows t d)
        (list.clues.get d)) Direction.all) :
    Halts settings text .quickSlow .overflow
  | spec {members : List (String × Json)} {fields : List (String × String)} {places : Table Coord}
    {fault : Fault} (read : Json.read? text = some (.object members))
    (head : specHead settings (.object members) = .ok (fields, places))
    (first : FirstIn (fun d => ∃ lines, specClueLines (.object members) d places = .ok lines)
      (SpecHaltsIn (.object members) places fault) Direction.all) :
    Halts settings text .legacySpec fault
  | grid {root : Element} {sections : Sections} {fault : Fault} (read : Element.read text = .ok root)
    (found : findSections root = .ok sections)
    (size : fault = .overflow ∧ sideLimit ≤ sections.size ∨
      fault = .tooLarge ∧ cellLimit ≤ sections.size * sections.size ∧ sections.size < sideLimit) :
    Halts settings text .compilerExport fault
  | answer {e : Export} (read : e.Of text) (first : e.Overflows) :
    Halts settings text .compilerExport .overflow

section List

open QuickSlow

variable {t : Template} {d : Direction} {fault : Fault}

theorem placeAll_fault_iff {clues : List Listed} :
    placeAll t t.numbering d clues = .error (.fault fault) ↔ fault = .overflow ∧
      FirstIn (fun clue => ∃ line, Placed t d clue line) (QuickSlow.Overflows t d) clues := by
  rw [(stepwise_placeAll t d).error_iff, ← FirstIn.and_iff]
  simp only [place_ok_iff, place_fault_iff, QuickSlow.Overflows]

theorem document_fault_iff {settings : Settings} {list : ClueList} :
    document settings list = .error (.fault fault) ↔
      ∃ t, Template.findByAcross? settings.templates (list.clues.across.map (·.id)) = some t ∧
        FirstIn (fun d => ∃ lines, placeAll t t.numbering d (list.clues.get d) = .ok lines)
          (fun d => placeAll t t.numbering d (list.clues.get d) = .error (.fault fault))
          Direction.all := by
  rw [document]
  cases Template.findByAcross? settings.templates (list.clues.across.map (·.id)) with
  | none => simp
  | some t =>
    simp only [Option.some.injEq, exists_eq_left', FirstIn.directions_iff, Both.get]
    cases placeAll t t.numbering .across list.clues.across with
    | error e => simp
    | ok across => cases placeAll t t.numbering .down list.clues.down <;> simp

theorem fromQuickSlow_fault_iff {settings : Settings} {text : String} :
    fromQuickSlow settings text = .error (.fault fault) ↔ Halts settings text .quickSlow fault := by
  have hread : fromQuickSlow settings text = .error (.fault fault) ↔
      ∃ list, QuickSlow.readLines none (cleanLines text.toList) .empty = .ok list ∧
        document settings list = .error (.fault fault) := by
    rw [fromQuickSlow]
    cases QuickSlow.readLines none (cleanLines text.toList) .empty <;> simp
  simp only [hread, document_fault_iff, placeAll_fault_iff, placeAll_ok_iff, FirstIn.and_iff]
  constructor
  · rintro ⟨list, hlist, t, ht, rfl, hfirst⟩
    exact .list hlist ht hfirst
  · intro h
    cases h with
    | list hlist ht hfirst => exact ⟨_, hlist, _, ht, rfl, hfirst⟩

end List

section Spec

variable {spec : Json} {places : Table Coord} {d : Direction} {fault : Fault}

theorem specClueLinesOf_fault_iff {pairs : List (Json × Option Json)} :
    specClueLinesOf d places pairs = .error (.fault fault) ↔
      FirstIn (fun pair => ∃ line, specClueLine d places pair.1 pair.2 = .ok line) (SpecHalts d fault)
        pairs := by
  rw [(stepwise_specClueLinesOf d places).error_iff]
  simp only [specClueLine_fault_iff, answerLetters_fault_iff]
  rfl

theorem specClueLines_fault_iff :
    specClueLines spec d places = .error (.fault fault) ↔ SpecHaltsIn spec places fault d := by
  simp only [SpecHaltsIn, ← specClueLinesOf_fault_iff]
  rw [specClueLines]
  cases listedClues spec d with
  | error e => simp
  | ok clues => cases h : listedAnswers spec d clues.length <;> simp [h]

theorem specDocument_fault_iff {settings : Settings} :
    specDocument settings spec = .error (.fault fault) ↔
      ∃ fields places, specHead settings spec = .ok (fields, places) ∧
        FirstIn (fun d => ∃ lines, specClueLines spec d places = .ok lines)
          (SpecHaltsIn spec places fault) Direction.all := by
  simp only [FirstIn.directions_iff, ← specClueLines_fault_iff]
  rw [specDocument]
  cases hhead : specHead settings spec with
  | error e => simp
  | ok head =>
    obtain ⟨fields, places⟩ := head
    dsimp only
    cases hacross : specClueLines spec .across places with
    | error e => simp [hacross]
    | ok across => cases hdown : specClueLines spec .down places <;> simp [hacross, hdown]

theorem fromLegacySpec_fault_iff {settings : Settings} {text : String} :
    fromLegacySpec settings text = .error (.fault fault) ↔ Halts settings text .legacySpec fault := by
  have hread : fromLegacySpec settings text = .error (.fault fault) ↔
      ∃ members, Json.read? text = some (.object members) ∧
        specDocument settings (.object members) = .error (.fault fault) := by
    rw [fromLegacySpec]
    cases Json.read? text with
    | none => simp
    | some v => cases v <;> simp [refusing, invalid]
  simp only [hread, specDocument_fault_iff]
  constructor
  · rintro ⟨members, hmembers, fields, places, hhead, hfirst⟩
    exact .spec hmembers hhead hfirst
  · intro h
    cases h with
    | spec hmembers hhead hfirst => exact ⟨_, hmembers, _, _, hhead, hfirst⟩

end Spec

section Export

variable {fault : Fault} {settings : Settings}

theorem directionLines_fault_iff {t : ClueTable} {id : Nat} {position : Coord}
    {starts : Starts (List Char)} {d : Direction} :
    directionLines t id position starts d = .error (.fault fault) ↔
      fault = .overflow ∧ t.Overflows id starts d := by
  simp only [directionLines_error_iff, answerLine_fault_iff, ClueTable.Overflows]
  constructor
  · rintro ⟨slot, hslot, hfault, clue, f, h⟩
    exact ⟨hfault, slot, clue, f, hslot, h⟩
  · rintro ⟨hfault, slot, clue, f, hslot, h⟩
    exact ⟨slot, hslot, hfault, clue, f, h⟩

theorem numberLines_fault_iff {t : ClueTable} {id : Nat} {position : Coord}
    {starts : Starts (List Char)} :
    numberLines t id position starts = .error (.fault fault) ↔ fault = .overflow ∧
      FirstIn (fun d => ∀ slot, starts.get d = some slot → ∃ line, answerLine t id position d slot = .ok line)
        (t.Overflows id starts) Direction.all := by
  rw [numberLines_error_iff, ← FirstIn.and_iff]
  simp only [directionLines_ok_iff, directionLines_fault_iff]

theorem Export.lines_fault_iff {e : Export} :
    e.lines = .error (.fault fault) ↔ fault = .overflow ∧ e.Overflows := by
  rw [Export.lines, (stepwise_exportLines _ _).error_iff, Export.Overflows, ← FirstIn.and_iff]
  simp only [exists_numberLines_iff, numberLines_fault_iff]
  rfl

theorem exportDocument_fault_iff {sections : Sections} {shape : Shape} {numbers : Table Coord} :
    exportDocument settings sections shape numbers = .error (.fault fault) ↔
      ∃ listed table, ∃ m : Metadata,
        readGroups ⟨[], []⟩ (sections.crossword.childrenNamed "clues") = .ok listed ∧
        resolveClues ((numbers.map shape.startsAt).map Starts.lengths) listed = .ok table ∧
        m.Of sections.metadata ∧
        exportLines table (numbers.map shape.startsAt) numbers.entries = .error (.fault fault) := by
  have hpure (doc : Document) : (pure doc : Except Failure Document) ≠ .error (.fault fault) := nofun
  simp only [exportDocument, bind_error_iff, refusing_ne_fault, refusing_ok_iff, exportFields_ok_iff,
    hpure, and_false, exists_false, false_or, or_false]
  constructor
  · rintro ⟨listed, hlisted, table, htable, fields, ⟨m, hm, -⟩, hlines⟩
    exact ⟨listed, table, m, hlisted, htable, hm, hlines⟩
  · rintro ⟨listed, table, m, hlisted, htable, hm, hlines⟩
    exact ⟨listed, hlisted, table, htable, _, ⟨m, hm, rfl⟩, hlines⟩

theorem fromCompilerExport_fault_iff {text : String} :
    fromCompilerExport settings text = .error (.fault fault) ↔
      Halts settings text .compilerExport fault := by
  constructor
  · intro h
    unfold fromCompilerExport at h
    split at h
    · cases h
    next root hroot =>
    split at h
    · cases h
    next sections hsections =>
    split at h
    · next hgrid =>
      cases h
      exact .grid hroot hsections (readGrid_fault_iff.mp hgrid)
    next shape numbers hgrid =>
    obtain ⟨listed, table, m, hlisted, htable, hm, hlines⟩ := exportDocument_fault_iff.mp h
    let e : Export := ⟨root, sections, shape, numbers, listed, table, m⟩
    obtain ⟨rfl, hfirst⟩ := Export.lines_fault_iff.mp (show e.lines = _ from hlines)
    exact .answer (e := e) ⟨hroot, hsections, hgrid, hlisted, htable, hm⟩ hfirst
  · intro h
    cases h with
    | grid hroot hsections hsize =>
      exact fromCompilerExport_of_readGrid_error hroot hsections (readGrid_fault_iff.mpr hsize)
    | answer he hfirst =>
      have hlines := Export.lines_fault_iff.mpr ⟨rfl, hfirst⟩
      simp only [fromCompilerExport, he.root, he.sections, he.grid]
      exact exportDocument_fault_iff.mpr ⟨_, _, _, he.listed, he.table, he.metadata, hlines⟩

end Export

theorem convert_fault_iff {settings : Settings} {format : SourceFormat} {text : String} {fault : Fault} :
    convert settings format text = .error (.fault fault) ↔ Halts settings text format fault := by
  have hmap (x : Except Failure Document) :
      x.map Document.text = .error (.fault fault) ↔ x = .error (.fault fault) := by
    cases x <;> simp [Except.map]
  cases format with
  | document => exact iff_of_false nofun nofun
  | foreignXml => exact iff_of_false nofun nofun
  | quickSlow => rw [convert, hmap, fromQuickSlow_fault_iff]
  | legacySpec => rw [convert, hmap, fromLegacySpec_fault_iff]
  | compilerExport => rw [convert, hmap, fromCompilerExport_fault_iff]

-- A spec whose only answer is longer than any text.
def endlessSpec : String :=
  "\x7b\"author\":\"\",\"editor\":\"\",\"publisher\":\"\",\"copyright\":\"\",\"date\":\"2019/05/06\"," ++
    "\"size\":\x7b\"rows\":15\x7d,\"grid\":[],\"gridnums\":[[1]]," ++
    "\"clues\":\x7b\"across\":[[1,\"Pet\",[9223372036854775808]]],\"down\":[]\x7d\x7d"

example : convert { pubdate := "2019/05/06" } .legacySpec endlessSpec = .error (.fault .tooLarge) := by
  decide +kernel

end Cruciverb.Import
