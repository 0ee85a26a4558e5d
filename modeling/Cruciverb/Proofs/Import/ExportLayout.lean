import Cruciverb.Proofs.Import.ExportSpec

namespace Cruciverb

open Cruciverb.Text

namespace Import

open Cruciverb.Xml

variable {t : ClueTable}

-- The number and the place of each line.
def linePlaces (lines : List ClueLine) : List (Nat × Coord) := lines.map fun l => (l.id, l.position)

theorem directionLines_places {id : Nat} {position : Coord} {starts : Starts (List Char)} {d : Direction}
    {lines : List ClueLine} (h : directionLines t id position starts d = .ok lines) :
    linePlaces lines = if (starts.get d).isSome then [(id, position)] else [] := by
  rw [directionLines] at h
  split at h
  · next hnone =>
    cases h
    rw [hnone]
    rfl
  · next slot hslot =>
    cases hanswer : answerLine t id position d slot with
    | error e =>
      rw [hanswer] at h
      cases h
    | ok line =>
      rw [hanswer] at h
      cases h
      obtain ⟨clue, f, -, -, -, rfl⟩ := answerLine_inv hanswer
      rw [hslot]
      rfl

-- A line for each answer, in the order of the numbers.
theorem exportLines_places {answers : Table (Starts (List Char))} {numbers : List (Nat × Coord)}
    {lines : Both (List ClueLine)} (h : exportLines t answers numbers = .ok lines) (d : Direction) :
    linePlaces (lines.get d) =
      numbers.filter fun n => (((answers.get? n.1).getD ⟨none, none⟩).get d).isSome := by
  induction numbers generalizing lines with
  | nil =>
    cases h
    cases d <;> rfl
  | cons number numbers ih =>
    obtain ⟨id, position⟩ := number
    rw [exportLines] at h
    split at h
    · cases h
    next first hfirst =>
    split at h
    · cases h
    next more hmore =>
    cases h
    have happend : linePlaces (Both.get ⟨first.across ++ more.across, first.down ++ more.down⟩ d) =
        linePlaces (first.get d) ++ linePlaces (more.get d) := by
      cases d <;> exact List.map_append
    rw [happend, ih hmore, directionLines_places (numberLines_ok_iff.mp hfirst d), List.filter_cons]
    split <;> rfl

-- The numbered cells where an answer starts.
def Export.answerPlaces (e : Export) (d : Direction) : List (Nat × Coord) :=
  e.numbers.entries.filter fun n => e.shape.starts n.2 d

theorem Export.places_lines {e : Export} {clues : Both (List ClueLine)} (h : e.lines = .ok clues)
    (d : Direction) : linePlaces (clues.get d) = e.answerPlaces d := by
  rw [exportLines_places h, answerPlaces]
  apply List.filter_congr
  intro n hn
  rw [Table.get?_map, Table.mem_entries_iff.mp hn, Option.map_some, Option.getD_some,
    Shape.get_startsAt]
  cases e.shape.starts n.2 d <;> rfl

-- The fields that an export gives are those that its metadata name, and four that every document has.
def Metadata.keys (m : Metadata) : List String :=
  ([Field.name, .author, .editor, .copyright, .publisher].filter fun f => (m.value? f).isSome).map
    Field.key ++ ["size", Field.pubdate.key]

theorem Metadata.keys_fields (m : Metadata) (settings : Settings) (size : Nat) :
    (m.fields settings size).map Prod.fst = m.keys := by
  have hentry (f : Field) : (m.entry f).map Prod.fst = if (m.value? f).isSome then [f.key] else [] := by
    rw [entry]
    cases m.value? f <;> rfl
  have hgiven (fs : List Field) : (fs.flatMap m.entry).map Prod.fst =
      (fs.filter fun f => (m.value? f).isSome).map Field.key := by
    induction fs with
    | nil => rfl
    | cons f fs ih =>
      rw [List.flatMap_cons, List.map_append, ih, hentry, List.filter_cons]
      split <;> rfl
  rw [fields, keys, List.map_append, hgiven]
  rfl

-- A line of a field that is read as one is read as its own.
def ReadsAsField (key : String) (line : Line) : Prop :=
  line = .unrecognised ∨ (key = "size" ∧ ∃ d, line = .size d) ∨ ∃ f v, key = f.key ∧ line = .field f v

-- So is the line of a clue.
def ReadsAsClue (clue : ClueLine) (line : Line) : Prop :=
  line = .unrecognised ∨ ∃ l, line = .clue l ∧ l.id = clue.id ∧ l.position = clue.position

-- The document of an export, line by line.
structure Laid (settings : Settings) (e : Export) (clues : Both (List ClueLine)) (document : String) :
    Prop where
  lines : Text.lines document.toList =
    ((e.metadata.fields settings e.sections.size).map Document.fieldLine ++ "across:" ::
      (clues.across.map ClueLine.text ++ "down:" :: clues.down.map ClueLine.text)).map String.toList
  count : (Text.lines document.toList).length =
    (e.metadata.fields settings e.sections.size).length + 1 + clues.across.length + 1 + clues.down.length
  keys : (e.metadata.fields settings e.sections.size).map Prod.fst = e.metadata.keys
  places : ∀ d, linePlaces (clues.get d) = e.answerPlaces d
  fieldLines : ∀ entry ∈ e.metadata.fields settings e.sections.size,
    ReadsAsField entry.1 (Line.read (cleanLine (Document.fieldLine entry).toList))
  clueLines : ∀ d, ∀ clue ∈ clues.get d, ReadsAsClue clue (Line.read (cleanLine clue.text.toList))

theorem readsAsField_of_mem_fields {m : Metadata} {settings : Settings} {size : Nat}
    {entry : String × String} (h : entry ∈ m.fields settings size) :
    ReadsAsField entry.1 (Line.read (cleanLine (Document.fieldLine entry).toList)) := by
  have hkeyed (f : Field) (v : String) :
      ReadsAsField f.key (Line.read (cleanLine (Document.fieldLine (f.key, v)).toList)) := by
    rcases Line.read_fieldLine f v with hnone | ⟨kept, hread, -⟩
    · exact .inl hnone
    · exact .inr (.inr ⟨f, kept, rfl, hread⟩)
  rcases Metadata.eq_of_mem_fields h with ⟨f, v, -, rfl⟩ | rfl | rfl
  · exact hkeyed f v
  · exact (Line.read_sizeLine _).imp id fun hsize => .inl ⟨rfl, hsize⟩
  · exact hkeyed .pubdate settings.pubdate

-- Whatever an export holds, its document has the lines that its fields and its answers call for.
theorem convert_export_laid {settings : Settings} {text document : String}
    (hdate : ∀ c ∈ settings.pubdate.toList, isLineEnd c = false)
    (h : convert settings .compilerExport text = .ok document) :
    ∃ (e : Export) (clues : Both (List ClueLine)), e.Of text ∧ e.lines = .ok clues ∧
      Laid settings e clues document := by
  obtain ⟨doc, hdoc, rfl⟩ := exists_of_convert_compilerExport h
  obtain ⟨e, he, hfields, hclues⟩ := fromCompilerExport_ok_iff.mp hdoc
  have hlines : Text.lines doc.text.toList = doc.lines.map String.toList :=
    Document.lines_text (he.inLine hdate hfields hclues).noLineEnd
  rw [Document.lines_eq, hfields] at hlines
  refine ⟨e, doc.clues, he, hclues, ?_⟩
  constructor
  case lines => exact hlines
  case count =>
    rw [hlines]
    simp only [List.length_map, List.length_append, List.length_cons]
    omega
  case keys => exact e.metadata.keys_fields settings e.sections.size
  case places => exact Export.places_lines hclues
  case fieldLines => exact fun entry hentry => readsAsField_of_mem_fields hentry
  case clueLines =>
    intro d clue hclue
    refine clue.read_cleanLine.imp id ?_
    rintro ⟨l, hread, hid, hposition, -⟩
    exact ⟨l, hread, hid, hposition⟩

-- A grid with one word. There are line breaks of several kinds in the title and in the clue, and behind them
-- stands what would be a line of a document.
def brokenExport : List Char :=
  "<?xml version=\"1.0\"?><crossword-compiler><rectangular-puzzle>".toList ++
    ("<metadata><title>Pets&#10;down:&#13;- (1,1) 9. Cow</title></metadata>".toList ++
    ("<crossword><grid width=\"3\" height=\"3\">".toList ++
    ((Coord.cells 3).flatMap cellTag ++
    ("</grid><word/><clues><title>Across</title><clue number=\"1\" format=\"3\">Pet\n".toList ++
    ("<i>across:</i>&#xA;<![CDATA[\r- (1,1) 2. Bird (OWL)]]></clue></clues>".toList ++
    "</crossword></rectangular-puzzle></crossword-compiler>".toList)))))

def brokenDocument : Document where
  fields := [("name", "Pets down: - (1,1) 9. Cow"), ("author", "UNSPECIFIED"), ("size", "3x3"),
    ("pubdate", "2019/05/06")]
  clues := ⟨[⟨⟨1, 1⟩, 1, "Pet <i>across:</i> - (1,1) 2. Bird (OWL)", "CAT"⟩], []⟩

theorem convert_export_laid_brokenExport :
    (∀ c ∈ "2019/05/06".toList, isLineEnd c = false) ∧
      convert { pubdate := "2019/05/06" } .compilerExport (String.ofList brokenExport) =
        .ok brokenDocument.text ∧
      (∃ e clues, Laid { pubdate := "2019/05/06" } e clues brokenDocument.text) ∧
      (Text.lines brokenDocument.text.toList).length = 7 := by
  have hdate : ∀ c ∈ "2019/05/06".toList, isLineEnd c = false := by decide
  have hdoc : fromCompilerExport { pubdate := "2019/05/06" } (String.ofList brokenExport) =
      .ok brokenDocument := fromCompilerExport_of_orderly (by decide +kernel)
  have hconvert : convert { pubdate := "2019/05/06" } .compilerExport (String.ofList brokenExport) =
      .ok brokenDocument.text := by
    rw [convert, hdoc]
    rfl
  obtain ⟨e, clues, -, -, hlaid⟩ := convert_export_laid hdate hconvert
  exact ⟨hdate, hconvert, ⟨e, clues, hlaid⟩, by decide +kernel⟩

end Import

end Cruciverb
