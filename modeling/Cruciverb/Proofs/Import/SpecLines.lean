import Cruciverb.Proofs.Compilation
import Cruciverb.Proofs.Derived
import Cruciverb.Proofs.Document.Remains
import Cruciverb.Proofs.Import.SpecClues
import Cruciverb.Proofs.Import.SpecFields
import Cruciverb.Proofs.Import.SpecPlaces

namespace Cruciverb

open Cruciverb.Answer Cruciverb.Text

namespace Spec

def field? (s : Spec) : Field → Option String
  | .version => none
  | .name => s.name
  | .author => some s.author
  | .editor => some s.editor
  | .copyright => some s.copyright
  | .publisher => some s.publisher
  | .pubdate => some s.date

theorem field?_ofPuzzle (p : Puzzle) {f : Field} (hf : f ≠ .version) :
    (ofPuzzle p).field? f = p.field? f := by
  cases f with
  | version => exact absurd rfl hf
  | name | author | editor | copyright | publisher | pubdate => rfl

end Spec

-- Whatever a document holds, no value that has been read from it ends its line or holds a comment sign.
theorem Puzzle.Legible.whole_value {p : Puzzle} (h : p.Legible) {f : Field} {value : String}
    (hvalue : p.field? f = some value) : Whole value.toList := by
  rcases h.field f value hvalue with htakes | hdefault
  · exact htakes.isValue.toWhole
  · cases f <;> cases hdefault <;> decide

namespace Import

section Clues

-- A text begins with `before`, and nothing but blanks and the lengths of an answer follows.
def LengthsBehind (text before : List Char) : Prop :=
  ∃ blanks numeric, text = before ++ blanks ++ '(' :: (numeric ++ [')']) ∧
    (blanks ≠ [] ∧ ∀ c ∈ blanks, isBlank c = true) ∧
    (∀ c, before.getLast? = some c → isBlank c = false) ∧
    (numeric ≠ [] ∧ ∀ c ∈ numeric, c.isDigit = true ∨ isSeparator c = true)

-- The body in a text of a spec: what is in front of the lengths or, where there are none, all of it.
def BodyOf (text body : List Char) : Prop :=
  LengthsBehind text body ∨ body = text ∧ ∀ before, ¬ LengthsBehind text before

theorem lengthsBehind_iff {text before : List Char} :
    LengthsBehind text before ↔ ∃ front numeric, Line.lastGroup? text = some (front, numeric) ∧
      (numeric ≠ [] ∧ ∀ c ∈ numeric, c.isDigit = true ∨ isSeparator c = true) ∧
      trimEnd front = before ∧ before.length < front.length := by
  constructor
  · rintro ⟨blanks, numeric, rfl, ⟨hne, hblanks⟩, hlast, hnumeric⟩
    have hparen : '(' ∉ numeric := by
      intro hmem
      rcases hnumeric.2 _ hmem with h | h <;> exact absurd h (by decide)
    refine ⟨_, numeric, Line.lastGroup?_append hparen, hnumeric, trimEnd_append_blanks hlast hblanks, ?_⟩
    rw [List.length_append]
    have := List.length_pos_iff.mpr hne
    omega
  · rintro ⟨front, numeric, hgroup, hnumeric, rfl, hlength⟩
    obtain ⟨blanks, hfront, hblanks⟩ := exists_blanks_behind_trimEnd front
    refine ⟨blanks, numeric, ?_, ⟨?_, hblanks⟩, fun c => getLast?_trimEnd_not_blank, hnumeric⟩
    · rw [← hfront]
      exact Line.lastGroup?_inv hgroup
    · rintro rfl
      rw [List.append_nil] at hfront
      exact absurd (congrArg List.length hfront) (by omega)

theorem bodyOf_dropTrailingFormat (text : List Char) : BodyOf text (dropTrailingFormat text) := by
  rw [dropTrailingFormat]
  split
  · next hgroup =>
    refine .inr ⟨rfl, fun before h => ?_⟩
    obtain ⟨front, numeric, hsome, -⟩ := lengthsBehind_iff.mp h
    rw [hgroup] at hsome
    cases hsome
  · next front numeric hgroup =>
    have hnumeric : (!numeric.isEmpty && numeric.all fun c => c.isDigit || isSeparator c) = true ↔
        numeric ≠ [] ∧ ∀ c ∈ numeric, c.isDigit = true ∨ isSeparator c = true := by simp
    dsimp only
    split
    · next hcut =>
      rw [Bool.and_eq_true, hnumeric, decide_eq_true_eq] at hcut
      exact .inl (lengthsBehind_iff.mpr ⟨front, numeric, hgroup, hcut.1, rfl, hcut.2⟩)
    · next hcut =>
      rw [Bool.and_eq_true, hnumeric, decide_eq_true_eq] at hcut
      refine .inr ⟨rfl, fun before h => hcut ?_⟩
      obtain ⟨front', numeric', hsome, hgiven, rfl, hlength⟩ := lengthsBehind_iff.mp h
      rw [hgroup] at hsome
      cases hsome
      exact ⟨hgiven, hlength⟩

-- A clue as it is listed, and the line that is made of it.
def ListsClue (item : Json) (line : ClueLine) : Prop :=
  ∃ parts text, item = .array parts ∧ parts[0]? = some (.nat line.id) ∧
    parts[1]? = some (.string text) ∧ BodyOf text.toList line.body.toList

theorem asNat?_eq_some {v : Json} {n : Nat} (h : v.asNat? = some n) : v = .nat n := by
  unfold Json.asNat? at h
  split at h
  · cases h
    rfl
  · cases h

theorem asArray?_eq_some {v : Json} {items : List Json} (h : v.asArray? = some items) : v = .array items := by
  unfold Json.asArray? at h
  split at h
  · cases h
    rfl
  · cases h

theorem readSpecClue_inv {item : Json} {field : String} {clue : ListedSpecClue}
    (h : readSpecClue item field = .ok clue) : ∃ parts text lengths, item = .array parts ∧
      parts[0]? = some (.nat clue.id) ∧ parts[1]? = some (.string text) ∧
      parts[2]? = some (.array lengths) ∧ clue.body = dropTrailingFormat text.toList ∧
      clue.lengths = readLengthItems lengths ∧ clue.numeric = parts[3]?.bind Json.asString? := by
  unfold readSpecClue at h
  split at h
  · cases h
  next parts hparts =>
  split at h
  · cases h
  next id hid =>
  split at h
  · cases h
  next text htext =>
  split at h
  · cases h
  next lengths hlengths =>
  cases h
  obtain ⟨first, hfirst, hnat⟩ := Option.bind_eq_some_iff.mp (Option.filter_eq_some_iff.mp hid).1
  obtain ⟨second, hsecond, hstring⟩ := Option.bind_eq_some_iff.mp htext
  obtain ⟨third, hthird, harray⟩ := Option.bind_eq_some_iff.mp hlengths
  exact ⟨parts, text, lengths, arrayItems_ok hparts, asNat?_eq_some hnat ▸ hfirst,
    asString?_eq_some hstring ▸ hsecond, asArray?_eq_some harray ▸ hthird, rfl, rfl, rfl⟩

variable {d : Direction} {places : Table Coord}

theorem listsClue_of_specClueLine {item : Json} {given : Option Json} {line : ClueLine}
    (h : specClueLine d places item given = .ok line) : ListsClue item line := by
  obtain ⟨clue, letters, hclue, -, -, hline⟩ := specClueLine_inv h
  obtain ⟨parts, text, -, hitem, hid, htext, -, hbody, -⟩ := readSpecClue_inv hclue
  rw [hline]
  refine ⟨parts, text, hitem, hid, htext, ?_⟩
  rw [String.toList_ofList, hbody]
  exact bodyOf_dropTrailingFormat _

-- Each listed clue makes one line.
theorem forall₂_of_specClueLinesOf {pairs : List (Json × Option Json)} {lines : List ClueLine}
    (h : specClueLinesOf d places pairs = .ok lines) :
    List.Forall₂ (fun pair line => specClueLine d places pair.1 pair.2 = .ok line) pairs lines := by
  induction pairs generalizing lines with
  | nil =>
    cases h
    exact .nil
  | cons pair pairs ih =>
    rw [specClueLinesOf] at h
    split at h
    · cases h
    next line hline =>
    split at h
    · cases h
    next more hmore =>
    cases h
    exact .cons hline (ih hmore)

theorem length_listedAnswers {v : Json} {clues : Nat} {answers : List (Option Json)}
    (h : listedAnswers v d clues = .ok answers) : answers.length = clues := by
  unfold listedAnswers at h
  split at h
  · cases h
    exact List.length_replicate
  split at h
  · cases h
  split at h
  · next heq =>
    cases h
    rw [List.length_map, heq]
  · cases h

theorem exists_of_specClueLines {v : Json} {lines : List ClueLine}
    (h : specClueLines v d places = .ok lines) :
    ∃ items answers, (v.member? "clues").bind (·.member? d.name) = some (.array items) ∧
      listedAnswers v d items.length = .ok answers ∧
      List.Forall₂ (fun pair line => specClueLine d places pair.1 pair.2 = .ok line)
        (items.zip answers) lines := by
  unfold specClueLines at h
  split at h
  · cases h
  next items hitems =>
  split at h
  · cases h
  next answers hanswers =>
  refine ⟨items, answers, ?_, hanswers, forall₂_of_specClueLinesOf h⟩
  unfold listedClues at hitems
  dsimp only at hitems
  split at hitems
  · cases hitems
  · next found hfound => rw [hfound, arrayItems_ok hitems]

theorem listsClues_of_specClueLines {v : Json} {lines : List ClueLine}
    (h : specClueLines v d places = .ok lines) :
    ∃ items, (v.member? "clues").bind (·.member? d.name) = some (.array items) ∧
      List.Forall₂ ListsClue items lines := by
  obtain ⟨items, answers, hitems, hanswers, hlines⟩ := exists_of_specClueLines h
  refine ⟨items, hitems, ?_⟩
  rw [← List.map_fst_zip (length_listedAnswers hanswers).ge, List.forall₂_map_left_iff]
  exact hlines.imp fun _ _ => listsClue_of_specClueLine

end Clues

section Fields

-- What a spec says of a field, if there is more to it than blanks. A puzzle may have an id in place of
-- a name.
def told? (v : Json) (f : Field) : Option String :=
  let given := if f = .name then (v.member? "name").or (v.member? "id") else v.member? f.key
  ((given.bind Json.asString?).map trimmed).filter (· ≠ "")

theorem trimmed_told {v : Json} {f : Field} {value : String} (h : told? v f = some value) :
    Trimmed value.toList := by
  obtain ⟨s, -, rfl⟩ := Option.map_eq_some_iff.mp (Option.filter_eq_some_iff.mp h).1
  rw [trimmed, String.toList_ofList]
  exact trimmed_trim _

theorem trimmed_eq_empty_iff {s : String} : trimmed s = "" ↔ (trim s.toList).isEmpty = true := by
  rw [trimmed, List.isEmpty_iff, ← String.toList_inj, String.toList_ofList]
  rfl

-- The entry of a field that is given as a text.
theorem toList_told {s : String} (f : Field) :
    ((((some s).map trimmed).filter (· ≠ "")).map (f.key, ·)).toList =
      if (trim s.toList).isEmpty then [] else [(f.key, trimmed s)] := by
  by_cases hblank : (trim s.toList).isEmpty = true
  · have hempty := trimmed_eq_empty_iff.mpr hblank
    simp [hempty, hblank]
  · have hne : trimmed s ≠ "" := fun h => hblank (trimmed_eq_empty_iff.mp h)
    simp [hne, hblank]

theorem specName_eq (v : Json) : specName v = Document.entriesOf (told? v) [.name] := by
  rw [specName, Document.entriesOf, List.flatMap_singleton, told?, if_pos rfl]
  cases ((v.member? "name").or (v.member? "id")).bind Json.asString? with
  | none => rfl
  | some s => exact (toList_told .name).symm

theorem stringField_inv {v : Json} {field s : String} (h : stringField v field = .ok s) :
    (v.member? field).bind Json.asString? = some s := by
  unfold stringField at h
  split at h
  · cases h
  next found hfound =>
  split at h
  · next s' hs =>
    cases h
    rw [hfound, Option.bind_some, hs]
  · cases h

theorem specFields_inv {v : Json} {fs : List Field} {fields : List (String × String)}
    (hfs : Field.name ∉ fs) (h : specFields v fs = .ok fields) :
    fields = Document.entriesOf (told? v) fs := by
  induction fs generalizing fields with
  | nil =>
    cases h
    rfl
  | cons f fs ih =>
    rw [List.mem_cons, not_or] at hfs
    rw [specFields] at h
    split at h
    · cases h
    next s hs =>
    split at h
    · cases h
    next more hmore =>
    cases h
    have htold : ((told? v f).map (f.key, ·)).toList =
        if (trim s.toList).isEmpty then [] else [(f.key, trimmed s)] := by
      rw [told?, if_neg (Ne.symm hfs.1), stringField_inv hs]
      exact toList_told f
    rw [Document.entriesOf, List.flatMap_cons, htold, ih hfs.2 hmore, Document.entriesOf]
    split <;> rfl

theorem specHead_inv {settings : Settings} {v : Json} {fields : List (String × String)}
    {places : Table Coord} (h : specHead settings v = .ok (fields, places)) :
    ∃ size date, fields = Document.entriesOf (told? v) Puzzle.specOrder ++
      [("size", size), (Field.pubdate.key, date)] := by
  unfold specHead at h
  split at h
  · cases h
  split at h
  · cases h
  next rows hrows =>
  split at h
  · cases h
  split at h
  · cases h
  next given hgiven =>
  split at h
  · cases h
  next date hdate =>
  cases h
  refine ⟨toString rows ++ "x" ++ toString rows, specDate (trimmed date) settings, ?_⟩
  have happend : Document.entriesOf (told? v) [.name] ++
      Document.entriesOf (told? v) [.author, .editor, .copyright, .publisher] =
        Document.entriesOf (told? v) Puzzle.specOrder := List.flatMap_append.symm
  rw [specName_eq, specFields_inv (by decide) hgiven, happend]
  rfl

end Fields

-- What a document takes over from a spec.
structure TakenFrom (doc : Document) (v : Json) : Prop where
  fields : ∃ size date, doc.fields = Document.entriesOf (told? v) Puzzle.specOrder ++
    [("size", size), (Field.pubdate.key, date)]
  clues : ∀ d, ∃ items, (v.member? "clues").bind (·.member? d.name) = some (.array items) ∧
    List.Forall₂ ListsClue items (doc.clues.get d)

theorem takenFrom_of_fromLegacySpec {settings : Settings} {text : String} {doc : Document}
    (h : fromLegacySpec settings text = .ok doc) :
    ∃ v, Json.read? text = some v ∧ TakenFrom doc v := by
  unfold fromLegacySpec at h
  split at h
  · cases h
  · next members hread =>
    refine ⟨_, hread, ?_⟩
    unfold specDocument at h
    split at h
    · cases h
    next fields places hhead =>
    split at h
    · cases h
    next across hacross =>
    split at h
    · cases h
    next down hdown =>
    cases h
    refine ⟨specHead_inv hhead, fun d => ?_⟩
    cases d with
    | across => exact listsClues_of_specClueLines hacross
    | down => exact listsClues_of_specClueLines hdown
  · cases h

theorem exists_of_convert_legacySpec {settings : Settings} {text document : String}
    (h : convert settings .legacySpec text = .ok document) :
    ∃ doc, fromLegacySpec settings text = .ok doc ∧ doc.text = document :=
  exists_of_map_ok h

-- A line as a spec tells it again. Its body is all there if a line can hold it and the answer opens no
-- other parenthesis.
structure Retold (line : ClueLine) (clue : SpecClue) : Prop where
  id : clue.id = line.id
  body : ∃ body, clue.text = body ++ " (" ++ clue.numeric ++ ")" ∧
    (body = line.body ↔ Line.IsBody line.body.toList ∧ '(' ∉ dropComment line.answer.toList)

theorem retold_settled {line : ClueLine} {c : Clue}
    (h : Line.read (cleanLine line.text.toList) = .clue c.toClueLine) (hbody : Line.IsBody c.body.toList) :
    Retold line (Spec.clue c.settled) where
  id := (ClueLine.exists_group_of_read h).1
  body := ⟨c.body, rfl, ClueLine.body_eq_iff h hbody⟩

-- A valid puzzle from a spec has no line end and no comment sign in its texts, whatever the spec has. If
-- the texts of the spec stay on their lines, the puzzle has its clues and its values.
theorem compile_legacySpec {settings : Settings} {text : String} {c : Compilation}
    (hformat : SourceFormat.ofText text = .legacySpec) (h : compile settings text = .ok c)
    (hv : c.Valid) :
    ∃ v doc s, Json.read? text = some v ∧ fromLegacySpec settings text = .ok doc ∧ TakenFrom doc v ∧
      c.spec? = some s ∧ (∀ f value, s.field? f = some value → Whole value.toList) ∧
      (∀ d, ∀ clue ∈ s.clues.get d, ∃ body, clue.text = body ++ " (" ++ clue.numeric ++ ")" ∧
        Line.IsBody body.toList) ∧
      (doc.InLine →
        (∀ f ∈ Puzzle.specOrder,
          s.field? f = ((told? v f).map kept).or (({} : Puzzle).field? f) ∧
            ∀ value, told? v f = some value → (kept value = value ↔ '#' ∉ value.toList)) ∧
        ∀ d, List.Forall₂ Retold (doc.clues.get d) (s.clues.get d)) := by
  obtain ⟨document, hconvert, herrors, hpuzzle⟩ := Compilation.exists_document h hv
  rw [hformat] at hconvert
  obtain ⟨doc, hdoc, rfl⟩ := exists_of_convert_legacySpec hconvert
  obtain ⟨v, hread, htaken⟩ := takenFrom_of_fromLegacySpec hdoc
  have hlegible := Puzzle.legible_read doc.text
  have hc := hv.projects h
  have hl : (Puzzle.read doc.text).Lawful :=
    (hlegible.validate_valid_iff herrors).mp (hpuzzle ▸ hc.puzzle)
  have hq : (Puzzle.read doc.text).Outcome c.puzzle := hpuzzle ▸ hlegible.outcome herrors hl
  have hfield {f : Field} (hf : f ≠ .version) :
      (Spec.ofPuzzle c.puzzle).field? f = (Puzzle.read doc.text).field? f := by
    rw [Spec.field?_ofPuzzle _ hf, hq.field]
  refine ⟨v, doc, _, hread, hdoc, htaken, hc.spec, ?whole, ?bodies, fun hends => ⟨?values, ?clues⟩⟩
  case whole =>
    intro f value hvalue
    by_cases hf : f = .version
    · subst hf
      cases hvalue
    · rw [hfield hf] at hvalue
      exact hlegible.whole_value hvalue
  case bodies =>
    intro d clue hclue
    rw [hq.get_clues_ofPuzzle] at hclue
    obtain ⟨c', hc', rfl⟩ := List.mem_map.mp hclue
    exact ⟨c'.body, rfl, (hlegible.writable d c' hc').body⟩
  all_goals obtain ⟨hs, clues, hreadAs, hset, hclues⟩ := hends.readAs herrors
  case values =>
    intro f hf
    obtain ⟨size, date, hfields⟩ := htaken.fields
    have hversion : f ≠ .version := by rintro rfl; exact absurd hf (by decide)
    have hpubdate : f ≠ .pubdate := by rintro rfl; exact absurd hf (by decide)
    refine ⟨?_, fun value hvalue => kept_eq_self_iff (trimmed_told hvalue)⟩
    rw [hfield hversion, hset]
    exact hreadAs.field?_setAll_entriesOf (by decide) hfields (fun _ _ => trimmed_told) hpubdate
      (fun hnot => absurd hf hnot) _
  case clues =>
    intro d
    have hlines := hreadAs.forall₂_clues d
    rw [← hclues d, List.forall₂_map_right_iff] at hlines
    rw [hq.get_clues_ofPuzzle, List.forall₂_map_right_iff]
    have hbodies : ∀ c' ∈ (Puzzle.read doc.text).clues.get d, Line.IsBody c'.body.toList :=
      fun c' hc' => (hlegible.writable d c' hc').body
    have hboth := (List.forall₂_and_left _ _).mpr ⟨hbodies, hlines.flip⟩
    exact hboth.flip.imp fun _ _ h => retold_settled h.2 h.1

-- A spec with one clue.
def oneClueSpec (name body : String) : Json :=
  .object [("name", .string name), ("author", .string ""), ("editor", .string ""),
    ("publisher", .string ""), ("copyright", .string ""), ("date", .string "2019/05/06"),
    ("size", .object [("rows", .nat 15)]), ("grid", .array []), ("gridnums", .array [.array [.nat 1]]),
    ("clues", .object [("across", .array [.array [.nat 1, .string body, .array [.nat 3]]]),
      ("down", .array [])])]

theorem fits_oneClueSpec (name body : String) : (oneClueSpec name body).Fits 5 := by
  have hword {levels n : Nat} (h : n < 16) : (Json.nat n).Fits levels :=
    .number (Nat.lt_trans h (by decide))
  have hclue : (Json.array [.nat 1, .string body, .array [.nat 3]]).Fits 2 := by
    apply Json.Fits.array
    simp only [List.forall_mem_cons]
    exact ⟨hword (by decide), .string _, .array (by simpa using hword (by decide)), by simp⟩
  have hclues : (Json.object [("across", .array [.array [.nat 1, .string body, .array [.nat 3]]]),
      ("down", .array [])]).Fits 4 := by
    apply Json.Fits.object
    simp only [List.forall_mem_cons]
    exact ⟨.array (by simpa using hclue), .array (by simp), by simp⟩
  have hsize : (Json.object [("rows", .nat 15)]).Fits 4 :=
    .object (by simpa using hword (by decide))
  have hgridnums : (Json.array [.array [.nat 1]]).Fits 4 := by
    apply Json.Fits.array
    simp only [List.forall_mem_cons]
    exact ⟨.array (by simpa using hword (by decide)), by simp⟩
  apply Json.Fits.object
  simp only [List.forall_mem_cons]
  exact ⟨.string _, .string _, .string _, .string _, .string _, .string _, hsize, .array (by simp),
    hgridnums, hclues, by simp⟩

theorem read?_oneClueSpec (name body : String) : Json.read? (oneClueSpec name body).compact =
    some (oneClueSpec name body).arranged := (fits_oneClueSpec name body).read?_compact (by decide)

theorem fromLegacySpec_oneClueSpec {name body : String} {settings : Settings} {doc : Document}
    (h : specDocument settings (oneClueSpec name body).arranged = .ok doc) :
    fromLegacySpec settings (oneClueSpec name body).compact = .ok doc :=
  ((fits_oneClueSpec name body).fromLegacySpec_compact (by decide) settings).trans h

theorem compile_oneClueSpec {name body : String} {settings : Settings} {doc : Document}
    (h : specDocument settings (oneClueSpec name body).arranged = .ok doc)
    (herrors : (Puzzle.read doc.text).errors = []) :
    SourceFormat.ofText (oneClueSpec name body).compact = .legacySpec ∧
      compile settings (oneClueSpec name body).compact =
        .ok (.ofPuzzle .legacySpec none (Puzzle.read doc.text).validate) := by
  have hformat : SourceFormat.ofText (oneClueSpec name body).compact = .legacySpec :=
    (fits_oneClueSpec name body).ofText_compact
  refine ⟨hformat, Compilation.compile_of_convert hformat ?_ herrors⟩
  rw [convert, fromLegacySpec_oneClueSpec h]
  rfl

def numberedSpec : Json := oneClueSpec "Puzzle #5" "Pet (3)"

-- A number sign in the name cuts it short, and nothing is reported.
theorem compile_legacySpec_numberedName :
    ∃ c v doc s, SourceFormat.ofText numberedSpec.compact = .legacySpec ∧
      compile { pubdate := "2019/05/06" } numberedSpec.compact = .ok c ∧ c.Valid ∧
      Json.read? numberedSpec.compact = some v ∧ TakenFrom doc v ∧ doc.InLine ∧
      c.spec? = some s ∧ told? v .name = some "Puzzle #5" ∧ s.name = some "Puzzle" ∧
      List.Forall₂ Retold (doc.clues.get .across) (s.clues.get .across) := by
  set settings : Settings := { pubdate := "2019/05/06" }
  set document : Document := ⟨[("name", "Puzzle #5"), ("size", "15x15"), ("pubdate", "2019/05/06")],
    ⟨[⟨⟨1, 1⟩, 1, "Pet", "XXX"⟩], []⟩⟩ with hdocument
  have hdoc : specDocument settings numberedSpec.arranged = .ok document := by
    decide
  have hread : (Puzzle.read document.text).errors = [] := by decide
  have hvalid : (Puzzle.read document.text).validate.Valid := by decide
  have hv := (Compilation.valid_ofPuzzle_iff .legacySpec none).mpr hvalid
  obtain ⟨hformat, hc⟩ := compile_oneClueSpec hdoc hread
  obtain ⟨v, doc, s, hjson, hconverted, htaken, hs, -, -, hretold⟩ := compile_legacySpec hformat hc hv
  obtain rfl : document = doc :=
    Except.ok.inj ((fromLegacySpec_oneClueSpec hdoc).symm.trans hconverted)
  obtain rfl : numberedSpec.arranged = v :=
    Option.some.inj ((read?_oneClueSpec _ _).symm.trans hjson)
  have hname : told? numberedSpec.arranged .name = some "Puzzle #5" := by
    decide
  have hends : document.InLine := by
    refine ⟨fun e he => ?_, fun d => ?_⟩
    · simp only [hdocument, List.mem_cons, List.not_mem_nil, or_false] at he
      rcases he with rfl | rfl | rfl
      · exact ⟨.inr ⟨.name, rfl⟩, by decide⟩
      · exact ⟨.inl rfl, by decide⟩
      · exact ⟨.inr ⟨.pubdate, rfl⟩, by decide⟩
    · cases d <;> decide
  obtain ⟨hvalues, hclues⟩ := hretold hends
  refine ⟨_, _, document, s, hformat, hc, hv, hjson, htaken, hends, hs, hname, ?_, hclues .across⟩
  have hvalue := (hvalues .name (by decide)).1
  rw [hname] at hvalue
  exact hvalue.trans (by decide)

def injectedSpec : Json := oneClueSpec "" "Pet (CAT)\n- (1,3) 2. Bird (OWL)\n#"

-- A body that ends its line goes on as another clue.
theorem injectedSpec_gains_clue :
    ∃ c v item s, SourceFormat.ofText injectedSpec.compact = .legacySpec ∧
      compile { pubdate := "2019/05/06" } injectedSpec.compact = .ok c ∧ c.errors = [] ∧
      Json.read? injectedSpec.compact = some v ∧
      (v.member? "clues").bind (·.member? "across") = some (.array [item]) ∧
      c.spec? = some s ∧ s.clues.across.map (·.id) = [1, 2] := by
  set settings : Settings := { pubdate := "2019/05/06" }
  set document : Document := ⟨[("size", "15x15"), ("pubdate", "2019/05/06")],
    ⟨[⟨⟨1, 1⟩, 1, "Pet (CAT)\n- (1,3) 2. Bird (OWL)\n#", "XXX"⟩], []⟩⟩
  have hdoc : specDocument settings injectedSpec.arranged = .ok document := by decide
  have hread : (Puzzle.read document.text).errors = [] := by decide
  have hvalid : (Puzzle.read document.text).validate.Valid := by decide
  have hids : (Spec.ofPuzzle (Puzzle.read document.text).validate).clues.across.map (·.id) = [1, 2] := by
    decide
  obtain ⟨hformat, hc⟩ := compile_oneClueSpec hdoc hread
  have hprojects := Compilation.projects_ofPuzzle
    ((Compilation.valid_ofPuzzle_iff .legacySpec none).mpr hvalid)
  exact ⟨_, _, _, _, hformat, hc, hprojects.errors, read?_oneClueSpec _ _, rfl, hprojects.spec, hids⟩

end Import

end Cruciverb
