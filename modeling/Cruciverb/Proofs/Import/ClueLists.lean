import Cruciverb.Import.QuickSlow
import Cruciverb.Proofs.Answer.Display
import Cruciverb.Proofs.Document.Legible
import Cruciverb.Proofs.Document.Remains
import Cruciverb.Proofs.Grid.Templates
import Cruciverb.Proofs.Pairing
import Cruciverb.Proofs.Traversal

namespace Cruciverb.Import

open Cruciverb.Answer Cruciverb.Text

namespace QuickSlow

-- A listed clue that can be written in a document.
structure Listed.Writable (clue : Listed) : Prop where
  id_lt : clue.id < idLimit
  text : Line.IsBody clue.text.toList
  format : clue.format.parts ≠ []

structure ClueList.Writable (list : ClueList) : Prop where
  fields : ∀ e ∈ list.fields, e.1.Takes e.2
  clues : ∀ d, ∀ clue ∈ list.clues.get d, clue.Writable

section Reading

theorem isBody_of_clueText? {cs text : List Char} (hcs : Whole cs) (h : clueText? cs = some text) :
    Line.IsBody text := by
  obtain ⟨value, hvalue, rfl⟩ := Option.map_eq_some_iff.mp h
  rcases Line.spacedValue?_eq hvalue with ⟨c, hlast, hblank, rfl⟩ | ⟨rfl, hne⟩
  · have hwhole : Whole [c] := hcs.of_subset fun d hd => by
      rw [List.mem_singleton.mp hd]
      exact List.mem_of_getLast? hlast
    rw [if_pos (by simp [hblank])]
    exact { hwhole with ne_nil := by simp, head := .inr rfl }
  · obtain ⟨c, rest, hstart⟩ := List.exists_cons_of_ne_nil hne
    have hc : isBlank c = false := @head?_trimStart_not_blank cs c (by rw [hstart]; rfl)
    rw [if_neg (by simp [hstart, hc])]
    have htrim : trimEnd (trimStart cs) = trim cs := rfl
    have hwhole : Whole (trim cs) := hcs.of_subset fun d hd => mem_of_mem_trim hd
    have hfront : trim cs = c :: trimEnd rest := by
      rw [← htrim, hstart]
      exact trimEnd_append_cons [] hc rest
    rw [htrim]
    exact { hwhole with ne_nil := by simp [hfront], head := .inl (trimmed_trim cs).head }

theorem parts_ne_nil_of_format? {inner : List Char} {f : Format} (h : format? inner = some f) :
    f.parts ≠ [] := by
  rw [format?] at h
  split at h
  · cases hread : Format.read inner with
    | error e =>
      rw [hread] at h
      cases h
    | ok g =>
      rw [hread] at h
      cases h
      exact Format.parts_ne_nil_of_read hread
  · cases h

theorem writable_of_clue? {line : List Char} {clue : Listed} (hline : Whole line)
    (h : clue? line = some clue) : clue.Writable := by
  unfold clue? at h
  simp only at h
  split at h
  · next id before inner hid hgroup =>
    split at h
    · next text format htext hformat =>
      cases h
      have hdrop : dropStop (spanDigits line).2 <:+ (spanDigits line).2 := by
        unfold dropStop
        split
        · next heq =>
          rw [heq]
          exact List.suffix_cons _ _
        · exact List.suffix_refl _
      have hbefore : Whole before := hline.of_subset fun c hc => by
        refine ((List.dropWhile_suffix _).subset (hdrop.subset ?_))
        rw [Line.lastGroup?_inv hgroup]
        exact List.mem_append_left _ hc
      refine ⟨readNumeral?_lt hid, ?_, parts_ne_nil_of_format? hformat⟩
      rw [String.toList_ofList]
      exact isBody_of_clueText? hbefore htext
    · cases h
  · cases h

theorem writable_empty : ClueList.empty.Writable where
  fields _ he := by cases he
  clues d _ hclue := by cases d <;> cases hclue

theorem ClueList.Writable.addField {list : ClueList} (h : list.Writable) {f : Field} {value : String}
    (hf : f.Takes value) : { list with fields := list.fields ++ [(f, value)] : ClueList }.Writable where
  fields := List.forall_mem_append.mpr ⟨h.fields, List.forall_mem_singleton.mpr hf⟩
  clues := h.clues

theorem ClueList.Writable.addClue {list : ClueList} (h : list.Writable) (d : Direction) {clue : Listed}
    (hclue : clue.Writable) :
    { list with clues := list.clues.modify d (· ++ [clue]) : ClueList }.Writable where
  fields := h.fields
  clues e := by
    rw [Both.get_modify]
    split
    · exact List.forall_mem_append.mpr ⟨h.clues e, List.forall_mem_singleton.mpr hclue⟩
    · exact h.clues e

-- Each line keeps what has been read so far writable.
theorem writable_readLines {ls : List (List Char)} (hls : ∀ l ∈ ls, Clean l)
    {grouping : Option Direction} {list list' : ClueList} (hlist : list.Writable)
    (h : readLines grouping ls list = .ok list') : list'.Writable := by
  induction ls generalizing grouping list with
  | nil =>
    cases h
    exact hlist
  | cons l ls ih =>
    have ih {grouping : Option Direction} {list : ClueList} (hlist : list.Writable)
        (h : readLines grouping ls list = .ok list') : list'.Writable :=
      ih (fun l hl => hls l (List.mem_cons_of_mem _ hl)) hlist h
    have hl := hls l List.mem_cons_self
    have hlisted {listed : Listed} (hclue : clue? l = some listed) : listed.Writable :=
      writable_of_clue? hl.toWhole hclue
    rw [readLines] at h
    split at h
    · exact ih hlist h
    · split at h
      · exact ih hlist h
      · exact ih hlist h
      · next hline => exact ih (hlist.addField (Field.takes_of_read hl hline)) h
      · exact ih hlist h
      · split at h
        · cases h
        · next hclue =>
          split at h
          · cases h
          · exact ih (hlist.addClue _ (hlisted hclue)) h
      · split at h
        · cases h
        · next hclue =>
          split at h
          · cases h
          · exact ih (hlist.addClue _ (hlisted hclue)) h

end Reading

section Placing

-- The line of a listed clue, at the place that the template gives to its number. There is a slot of the
-- right length.
structure Placed (t : Template) (d : Direction) (clue : Listed) (line : ClueLine) : Prop where
  id : line.id = clue.id
  body : line.body = clue.text
  answer : line.answer = String.ofList clue.format.text
  slot : ∃ cell slot, t.numbering.get? clue.id = some cell ∧ line.position = cell.position ∧
    cell.starts.get d = some slot ∧ clue.format.Fills slot

variable {t : Template} {d : Direction}

-- What becomes of a clue that has a slot.
theorem place_eq {numbering : Table NumberedCell} {clue : Listed} {cell : NumberedCell}
    {slot : List Char} (hcell : numbering.get? clue.id = some cell)
    (hslot : cell.starts.get d = some slot) : place t numbering d clue =
      if wordLimit ≤ clue.format.size then .error (.fault .overflow)
      else if clue.format.size = slot.length then
        .ok ⟨cell.position, clue.id, clue.text, String.ofList clue.format.text⟩
      else .error (.refused
        (.templateLengthMismatch t.name d clue.id slot.length clue.format.size)) := by
  simp only [place, hcell, hslot]
  split
  · next hnone => rw [if_pos (Format.total?_eq_none_iff.mp hnone)]
  · next total htotal =>
    obtain ⟨rfl, hlt⟩ := Format.total?_eq_some_iff.mp htotal
    rw [if_neg (Nat.not_le_of_lt hlt)]
    simp only [eq_comm]

theorem place_ok_iff {clue : Listed} {line : ClueLine} :
    place t t.numbering d clue = .ok line ↔ Placed t d clue line := by
  constructor
  · intro h
    cases hcell : t.numbering.get? clue.id with
    | none => simp [place, hcell] at h
    | some cell =>
      cases hslot : cell.starts.get d with
      | none => simp [place, hcell, hslot] at h
      | some slot =>
        rw [place_eq hcell hslot] at h
        split at h
        · cases h
        · next hlt =>
          split at h
          · next hsize =>
            cases h
            have hfills : clue.format.Fills slot := ⟨hsize, hsize ▸ Nat.lt_of_not_le hlt⟩
            exact ⟨rfl, rfl, rfl, cell, slot, hcell, rfl, hslot, hfills⟩
          · cases h
  · rintro ⟨hid, hbody, hanswer, cell, slot, hcell, hposition, hslot, hfills⟩
    have hsize : clue.format.size = slot.length := hfills.1
    obtain ⟨position, id, body, answer⟩ := line
    obtain rfl : id = clue.id := hid
    obtain rfl : body = clue.text := hbody
    obtain rfl : answer = _ := hanswer
    obtain rfl : position = cell.position := hposition
    rw [place_eq hcell hslot, if_neg (by rw [hsize]; exact Nat.not_le_of_lt hfills.2), if_pos hsize]

-- The lengths of a clue are too many to be added up.
theorem place_fault_iff {clue : Listed} {fault : Fault} :
    place t t.numbering d clue = .error (.fault fault) ↔
      fault = .overflow ∧ ∃ cell slot, t.numbering.get? clue.id = some cell ∧
        cell.starts.get d = some slot ∧ wordLimit ≤ clue.format.size := by
  cases hcell : t.numbering.get? clue.id with
  | none => simp [place, hcell]
  | some cell =>
    cases hslot : cell.starts.get d with
    | none => simp [place, hcell, hslot]
    | some slot =>
      rw [place_eq hcell hslot]
      by_cases hsize : wordLimit ≤ clue.format.size
      · simp [hslot, hsize, eq_comm]
      · rw [if_neg hsize]
        split <;> simp [hsize]

-- The clues are placed one after the other.
theorem stepwise_placeAll (t : Template) (d : Direction) :
    Stepwise (placeAll t t.numbering d) (place t t.numbering d) where
  nil _ := by simp [placeAll]
  stop h := by simp only [placeAll, h]
  more {clue rest line failure} h := by
    simp only [placeAll, h]
    cases placeAll t t.numbering d rest <;> simp

theorem placeAll_ok_iff {clues : List Listed} {lines : List ClueLine} :
    placeAll t t.numbering d clues = .ok lines ↔ List.Forall₂ (Placed t d) clues lines := by
  induction clues generalizing lines with
  | nil =>
    rw [placeAll, List.forall₂_nil_left_iff, Except.ok.injEq, eq_comm]
  | cons clue rest ih =>
    rw [placeAll, List.forall₂_cons_left_iff]
    simp only [← ih, ← place_ok_iff]
    cases place t t.numbering d clue with
    | error e => simp
    | ok line =>
      cases placeAll t t.numbering d rest with
      | error e => simp
      | ok lines => simp [eq_comm]

theorem document_ok_iff {settings : Settings} {list : ClueList} {doc : Document} :
    document settings list = .ok doc ↔
      ∃ t, Template.findByAcross? settings.templates (list.clues.across.map (·.id)) = some t ∧
        doc.fields = documentFields settings t list.fields ∧
        ∀ d, List.Forall₂ (Placed t d) (list.clues.get d) (doc.clues.get d) := by
  rw [document]
  constructor
  · intro h
    split at h
    · cases h
    · next t ht =>
      split at h
      · cases h
      · next across hacross =>
        split at h
        · cases h
        · next down hdown =>
          cases h
          exact ⟨t, ht, rfl, Direction.forall_iff.mpr
            ⟨placeAll_ok_iff.mp hacross, placeAll_ok_iff.mp hdown⟩⟩
  · rintro ⟨t, ht, hfields, hplaced⟩
    obtain ⟨fields, across, down⟩ := doc
    obtain rfl : fields = _ := hfields
    have hacross : placeAll t t.numbering .across list.clues.across = .ok across :=
      placeAll_ok_iff.mpr (hplaced .across)
    have hdown : placeAll t t.numbering .down list.clues.down = .ok down :=
      placeAll_ok_iff.mpr (hplaced .down)
    simp only [ht, hacross, hdown]

theorem Placed.ids_eq {clues : List Listed} {lines : List ClueLine}
    (h : List.Forall₂ (Placed t d) clues lines) : clues.map (·.id) = lines.map (·.id) :=
  map_eq_map_iff_forall₂.mpr (h.imp fun _ _ hp => hp.id.symm)

theorem Placed.writable {clue : Listed} {line : ClueLine} (h : Placed t d clue line)
    (hclue : clue.Writable) (hsize : t.size < wordLimit) : line.Writable := by
  obtain ⟨cell, slot, hcell, hposition, hslot, -⟩ := h.slot
  obtain ⟨s, hs, he⟩ := Template.exists_shape?_of_get? hcell
  obtain ⟨hstarts, -⟩ := Shape.get_starts_of_mem_numbering he hslot
  obtain ⟨-, hx, -, hy⟩ := Shape.within_of_open (Shape.not_isBlock_of_starts hstarts)
  rw [Template.size_of_shape? hs] at hx hy
  refine ⟨?_, ?_, h.id ▸ hclue.id_lt, h.body ▸ hclue.text, ?_⟩
  · rw [hposition]
    exact Nat.lt_of_le_of_lt hx hsize
  · rw [hposition]
    exact Nat.lt_of_le_of_lt hy hsize
  · rw [h.answer, String.toList_ofList]
    exact Format.isAnswer_display hclue.format

end Placing

section Fields

def fieldValue? (f : Field) (e : Field × String) : Option String := if e.1 = f then some e.2 else none

-- The value that a list gives last to a field.
def ClueList.lastValue? (list : ClueList) (f : Field) : Option String :=
  (list.fields.filterMap (fieldValue? f)).getLast?

-- What a field is where the list says nothing of it.
def default? (settings : Settings) (f : Field) : Option String :=
  if f = .pubdate then some settings.pubdate else ({} : Puzzle).field? f

-- What the fields of the document say.
def headings (settings : Settings) (list : ClueList) (dimensions : Dimensions) : List Heading :=
  list.fields.map (fun e => .field e.1 e.2) ++ [.size dimensions] ++
    if list.fields.any (·.1 == Field.pubdate) then [] else [.field .pubdate settings.pubdate]

theorem documentFields_eq (settings : Settings) {t : Template} (list : ClueList) {dimensions : Dimensions}
    (hsize : t.size = dimensions.side) :
    documentFields settings t list.fields =
      (headings settings list dimensions).map Heading.entry := by
  have hentry : list.fields.map (fun e => (e.1.key, e.2)) =
      (list.fields.map fun e => Heading.field e.1 e.2).map Heading.entry := by
    rw [List.map_map]
    rfl
  rw [documentFields, headings, hsize, List.map_append, List.map_append, ← hentry]
  congr 1
  split
  · rfl
  · rfl

theorem readable_headings {settings : Settings} {list : ClueList} (hlist : list.Writable)
    (hdate : Line.isDateShape settings.pubdate.toList = true) (dimensions : Dimensions) :
    ∀ h ∈ headings settings list dimensions, h.Readable := by
  rw [headings]
  refine List.forall_mem_append.mpr ⟨List.forall_mem_append.mpr ⟨?_, ?_⟩, ?_⟩
  · exact List.forall_mem_map.mpr hlist.fields
  · exact List.forall_mem_singleton.mpr trivial
  · split
    · simp
    · exact List.forall_mem_singleton.mpr (Field.takes_pubdate hdate)

theorem filterMap_headings (settings : Settings) (list : ClueList) (dimensions : Dimensions) (f : Field) :
    (headings settings list dimensions).filterMap (Heading.value? f) =
      list.fields.filterMap (fieldValue? f) ++
        if list.fields.any (·.1 == Field.pubdate) then []
        else if f = .pubdate then [settings.pubdate] else [] := by
  have hlisted : (list.fields.map fun e => Heading.field e.1 e.2).filterMap (Heading.value? f) =
      list.fields.filterMap (fieldValue? f) := by
    rw [List.filterMap_map]
    rfl
  rw [headings, List.filterMap_append, List.filterMap_append, hlisted, List.append_assoc]
  congr 1
  by_cases hlisted : list.fields.any (·.1 == Field.pubdate) = true
  · rw [if_pos hlisted, if_pos hlisted]
    rfl
  · rw [if_neg hlisted, if_neg hlisted]
    cases f <;> rfl

-- A list that gives a date is left with it.
theorem lastValue?_headings (settings : Settings) (list : ClueList) (dimensions : Dimensions)
    (f : Field) :
    ((headings settings list dimensions).filterMap (Heading.value? f)).getLast?.or
      (({} : Puzzle).field? f) = (list.lastValue? f).or (default? settings f) := by
  rw [filterMap_headings, ClueList.lastValue?, default?, List.getLast?_append]
  by_cases hf : f = .pubdate
  · subst hf
    rw [if_pos rfl, if_pos rfl]
    split
    · next hlisted =>
      obtain ⟨e, he, hkey⟩ := List.any_eq_true.mp hlisted
      have hmem : e.2 ∈ list.fields.filterMap (fieldValue? .pubdate) :=
        List.mem_filterMap.mpr ⟨e, he, if_pos (beq_iff_eq.mp hkey)⟩
      obtain ⟨last, hlast⟩ := Option.isSome_iff_exists.mp
        (List.getLast?_isSome.mpr (List.ne_nil_of_mem hmem))
      rw [hlast]
      rfl
    · next hnone =>
      have hempty : list.fields.filterMap (fieldValue? .pubdate) = [] := by
        rw [List.filterMap_eq_nil_iff]
        intro e he
        refine if_neg fun hkey => hnone (List.any_eq_true.mpr ⟨e, he, ?_⟩)
        exact beq_iff_eq.mpr hkey
      rw [hempty]
      rfl
  · rw [if_neg hf, if_neg hf, ite_self]
    rfl

end Fields

-- What is read of the document of a list.
structure ReadBack (settings : Settings) (list : ClueList) (t : Template) (p : Puzzle) : Prop where
  errors : p.errors = []
  side : p.dimensions.side = t.size
  clues : ∀ d, List.Forall₂ (fun listed clue => Placed t d listed clue.toClueLine)
    (list.clues.get d) (p.clues.get d)
  field : ∀ f, p.field? f = (list.lastValue? f).or (default? settings f)

theorem ReadBack.ids_eq {settings : Settings} {list : ClueList} {t : Template} {p : Puzzle}
    (h : ReadBack settings list t p) (d : Direction) :
    (p.clues.get d).map (·.id) = (list.clues.get d).map (·.id) := by
  have hlines : List.Forall₂ (Placed t d) (list.clues.get d) ((p.clues.get d).map Clue.toClueLine) :=
    List.forall₂_map_right_iff.mpr (h.clues d)
  rw [Placed.ids_eq hlines, List.map_map]
  rfl

theorem read_document {settings : Settings} {list : ClueList} (hlist : list.Writable)
    (hdate : Line.isDateShape settings.pubdate.toList = true) {t : Template} {dimensions : Dimensions}
    (hsize : t.size = dimensions.side) {doc : Document}
    (hfields : doc.fields = documentFields settings t list.fields)
    (hplaced : ∀ d, List.Forall₂ (Placed t d) (list.clues.get d) (doc.clues.get d)) :
    ReadBack settings list t (Puzzle.read doc.text) := by
  have hsize' : t.size < wordLimit := by
    rw [hsize]
    cases dimensions <;> decide
  have hwritable : ∀ d, ∀ line ∈ doc.clues.get d, line.Writable := by
    intro d line hline
    obtain ⟨clue, hclue, hp⟩ := exists_of_mem_right (hplaced d) hline
    exact hp.writable (hlist.clues d clue hclue) hsize'
  rw [documentFields_eq settings list hsize] at hfields
  rw [Document.read_text hfields (readable_headings hlist hdate dimensions) hwritable]
  refine ⟨Puzzle.errors_setAll _ _, ?_, ?_, ?_⟩
  · rw [hsize, headings, Puzzle.setAll_append, Puzzle.setAll_append]
    split
    · rfl
    · rfl
  · intro d
    rw [Both.get_map, List.forall₂_map_right_iff]
    exact hplaced d
  · intro f
    have hdefault : ({ source := doc.text } : Puzzle).field? f = ({} : Puzzle).field? f := by
      cases f <;> rfl
    rw [← lastValue?_headings settings list dimensions, ← hdefault, ← Puzzle.field?_setAll_eq]
    generalize Puzzle.setAll (headings settings list dimensions) { source := doc.text } = p
    cases f <;> rfl

end QuickSlow

open QuickSlow

theorem QuickSlow.dimensions_of_size {t : Template} (h : t.size = 15 ∨ t.size = 17) :
    ∃ dimensions : Dimensions, t.size = dimensions.side := by
  rcases h with h | h
  · exact ⟨.fifteen, h⟩
  · exact ⟨.seventeen, h⟩

theorem fromQuickSlow_inv {settings : Settings} {text : String} {doc : Document}
    (h : fromQuickSlow settings text = .ok doc) :
    ∃ list t, QuickSlow.readLines none (cleanLines text.toList) .empty = .ok list ∧ list.Writable ∧
      Template.findByAcross? settings.templates (list.clues.across.map (·.id)) = some t ∧
      doc.fields = documentFields settings t list.fields ∧
      ∀ d, List.Forall₂ (Placed t d) (list.clues.get d) (doc.clues.get d) := by
  unfold fromQuickSlow at h
  split at h
  · cases h
  · next list hlist =>
    obtain ⟨t, ht, hdocument⟩ := document_ok_iff.mp h
    have hwritable := writable_readLines (fun _ => clean_of_mem_cleanLines) writable_empty hlist
    exact ⟨list, t, hlist, hwritable, ht, hdocument⟩

-- A list has a document if each of its clues has a place.
theorem exists_fromQuickSlow {settings : Settings} {text : String} {list : ClueList} {t : Template}
    (hlist : QuickSlow.readLines none (cleanLines text.toList) .empty = .ok list)
    (ht : Template.findByAcross? settings.templates (list.clues.across.map (·.id)) = some t)
    (hplaced : ∀ d, ∃ lines, placeAll t t.numbering d (list.clues.get d) = .ok lines) :
    ∃ doc, fromQuickSlow settings text = .ok doc := by
  obtain ⟨across, hacross⟩ := hplaced .across
  obtain ⟨down, hdown⟩ := hplaced .down
  refine ⟨⟨documentFields settings t list.fields, ⟨across, down⟩⟩, ?_⟩
  rw [fromQuickSlow, hlist]
  exact document_ok_iff.mpr ⟨t, ht, rfl, Direction.forall_iff.mpr
    ⟨placeAll_ok_iff.mp hacross, placeAll_ok_iff.mp hdown⟩⟩

-- The document of a list is read back as it was meant, if the template has a size that puzzles have.
theorem read_fromQuickSlow {settings : Settings} {text : String} {doc : Document}
    (hdate : Line.isDateShape settings.pubdate.toList = true)
    (h : fromQuickSlow settings text = .ok doc) :
    ∃ list t, QuickSlow.readLines none (cleanLines text.toList) .empty = .ok list ∧
      Template.findByAcross? settings.templates (list.clues.across.map (·.id)) = some t ∧
      (t.size = 15 ∨ t.size = 17 → ReadBack settings list t (Puzzle.read doc.text)) := by
  obtain ⟨list, t, hlist, hwritable, ht, hfields, hplaced⟩ := fromQuickSlow_inv h
  refine ⟨list, t, hlist, ht, fun hsize => ?_⟩
  obtain ⟨dimensions, hsize⟩ := dimensions_of_size hsize
  exact read_document hwritable hdate hsize hfields hplaced

deriving instance DecidableEq for ClueList

-- The letters of a slot in a template.
def slotOf (length : Nat) : List Char := List.replicate length Answer.star

-- Two words across that do not touch.
def sparse : Template where
  name := "sparse"
  rows := ["...############", "###############", "...############"] ++
    List.replicate 12 "###############"

def sparseStarts : List NumberedCell :=
  [⟨⟨1, 1⟩, ⟨some (slotOf 3), none⟩⟩, ⟨⟨1, 3⟩, ⟨some (slotOf 3), none⟩⟩]

theorem numbering_sparse :
    sparse.numbering = ⟨numberFrom 1 sparseStarts, ascending_numberFrom 1 sparseStarts⟩ := by
  let word := List.replicate 3 '.' ++ List.replicate 12 '#'
  let blocks := List.replicate 15 '#'
  have hrows : sparse.rows = ([word, blocks, word] ++ List.replicate 12 blocks).map String.ofList := by
    rfl
  set_option maxRecDepth 4000 in
  exact Template.numbering_of_lines hrows (by decide) (by decide) (by decide)

theorem ids_sparse (d : Direction) : sparse.ids d = Both.get ⟨[1, 2], []⟩ d := by
  rw [Template.ids, numbering_sparse]
  cases d <;> rfl

theorem findByAcross?_sparse : Template.findByAcross? [sparse] [1, 2] = some sparse :=
  List.find?_cons_of_pos (beq_iff_eq.mpr (ids_sparse .across))

-- A value that is given twice, parentheses in a text, and a text of blanks alone.
def oddList : String :=
  "Quick-Slow\nname: Odd\nNAME:  Odder # ends\n\nacross\n1 Pet (tame (fed)) (2-01)\n2.    (3)"

def oddClues : ClueList where
  fields := [(.name, "Odd"), (.name, "Odder")]
  clues := ⟨[⟨1, "Pet (tame (fed))", [2, 1], [.hyphen], rfl⟩, ⟨2, " ", .ofLengths [3]⟩], []⟩

theorem readLines_oddList :
    QuickSlow.readLines none (cleanLines oddList.toList) .empty = .ok oddClues := by
  decide

theorem read_fromQuickSlow_oddList :
    ∃ doc list t, Line.isDateShape "2019/05/06".toList = true ∧
      fromQuickSlow { pubdate := "2019/05/06", templates := [sparse] } oddList = .ok doc ∧
      t.size = 15 ∧ (Puzzle.read doc.text).name = some "Odder" ∧
      ReadBack { pubdate := "2019/05/06", templates := [sparse] } list t (Puzzle.read doc.text) := by
  have hdate : Line.isDateShape "2019/05/06".toList = true := by decide
  have hplaced (d : Direction) : ∃ lines,
      placeAll sparse sparse.numbering d (oddClues.clues.get d) = .ok lines := by
    rw [numbering_sparse]
    cases d <;> exact ⟨_, rfl⟩
  obtain ⟨doc, hdoc⟩ : ∃ doc,
      fromQuickSlow { pubdate := "2019/05/06", templates := [sparse] } oddList = .ok doc :=
    exists_fromQuickSlow readLines_oddList findByAcross?_sparse hplaced
  obtain ⟨list, t, hlist, ht, hback⟩ := read_fromQuickSlow hdate hdoc
  obtain rfl : t = sparse := List.mem_singleton.mp (List.mem_of_find?_eq_some ht)
  obtain rfl : oddClues = list := Except.ok.inj (readLines_oddList.symm.trans hlist)
  have hname : (Puzzle.read doc.text).field? .name = some "Odder" :=
    ((hback (.inl rfl)).field .name).trans (by decide)
  exact ⟨doc, oddClues, sparse, hdate, hdoc, rfl, hname, hback (.inl rfl)⟩

end Cruciverb.Import
