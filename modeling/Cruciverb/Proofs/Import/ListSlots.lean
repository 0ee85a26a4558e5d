import Cruciverb.Proofs.Import.ListGrid

namespace Cruciverb

namespace Import

open Cruciverb.Answer Cruciverb.Text

namespace QuickSlow

variable {settings : Settings} {list : ClueList} {t : Template} {doc : Document} {p : Puzzle}

-- The date of the settings stays on its line, if it is needed.
def DateInLine (settings : Settings) (list : ClueList) : Prop :=
  (list.lastValue? .pubdate).isSome ∨ ∀ c ∈ settings.pubdate.toList, isLineEnd c = false

theorem inLine_of_placed (hlist : list.Writable) (hdate : DateInLine settings list)
    (hfields : doc.fields = documentFields settings t list.fields)
    (hplaced : ∀ d, List.Forall₂ (Placed t d) (list.clues.get d) (doc.clues.get d)) : doc.InLine := by
  constructor
  case fields =>
    have hlisted : ∀ e ∈ list.fields, ∀ c ∈ e.2.toList, isLineEnd c = false := fun e he =>
      (hlist.fields e he).isValue.noLineEnd
    rw [hfields, documentFields]
    refine List.forall_mem_append.mpr ⟨List.forall_mem_append.mpr ⟨?_, ?_⟩, ?_⟩
    · rw [List.forall_mem_map]
      exact fun e he => ⟨.inr ⟨e.1, rfl⟩, hlisted e he⟩
    · exact List.forall_mem_singleton.mpr ⟨.inl rfl, Document.noLineEnd_sizeText t.size⟩
    · split
      · simp
      · next hnone =>
        rw [List.forall_mem_singleton]
        refine ⟨.inr ⟨.pubdate, rfl⟩, hdate.resolve_left fun hsome => hnone ?_⟩
        obtain ⟨value, hvalue⟩ := Option.isSome_iff_exists.mp hsome
        obtain ⟨e, he, hkey⟩ := List.mem_filterMap.mp (List.mem_of_getLast? hvalue)
        rw [fieldValue?] at hkey
        split at hkey
        · next hpubdate => exact List.any_eq_true.mpr ⟨e, he, beq_iff_eq.mpr hpubdate⟩
        · cases hkey
  case clues =>
    intro d line hline
    obtain ⟨listed, hlisted, hp⟩ := exists_of_mem_right (hplaced d) hline
    have hwritable := hlist.clues d listed hlisted
    rw [hp.body, hp.answer, String.toList_ofList]
    exact ⟨hwritable.text.noLineEnd,
      (Line.whole_of_isAnswer (Format.isAnswer_display hwritable.format)).noLineEnd⟩

theorem Placed.mem_ids {d : Direction} {listed : Listed} {line : ClueLine} (h : Placed t d listed line) :
    listed.id ∈ t.ids d := by
  obtain ⟨cell, slot, hcell, -, hslot, -⟩ := h.slot
  exact Template.mem_ids.mpr ⟨cell, slot, hcell, hslot⟩

-- A slot that is left out without notice.
theorem omitted (hl : p.Lawful) (hacross : (p.clues.get .across).map (·.id) = t.ids .across) {k : Nat}
    (hk : k ∈ t.ids .down) (hnone : k ∉ (p.clues.get .down).map (·.id)) :
    k ∈ t.ids .across ∨ ∀ d, ∀ id ∈ (p.clues.get d).map (·.id), id < k := by
  rw [or_iff_not_imp_left]
  intro hout d id hid
  have hmem (d : Direction) (j : Nat) (hj : j ∈ (p.clues.get d).map (·.id)) : j ∈ p.ids := by
    obtain ⟨clue, hclue, rfl⟩ := List.mem_map.mp hj
    exact List.mem_map.mpr ⟨⟨d, clue⟩, Puzzle.mem_entries.mpr hclue, rfl⟩
  have hunused : k ∉ p.ids := by
    intro hk
    obtain ⟨⟨e, clue⟩, he, rfl⟩ := List.mem_map.mp hk
    have hclue := List.mem_map_of_mem (f := (·.id)) (Puzzle.mem_entries.mp he)
    cases e with
    | across => exact hout (hacross ▸ hclue)
    | down => exact hnone hclue
  have hpos : 1 ≤ k := by
    obtain ⟨cell, slot, hcell, -⟩ := Template.mem_ids.mp hk
    obtain ⟨s, -, he⟩ := Template.exists_shape?_of_get? hcell
    exact Shape.id_pos_of_mem_numbering he
  -- up to the largest number there is, no number is missing
  have hmax : p.maxId < k := by
    rw [hl.numbered] at hunused
    omega
  exact Nat.lt_of_le_of_lt ((hl.numbered id).mp (hmem d id hid)).2 hmax

end QuickSlow

open QuickSlow

-- A valid puzzle from a list has all the numbers across of its template, and the numbers down that are
-- listed. A number down is left out only if there is one across like it, or no clue has a larger one.
theorem compile_quickSlow {settings : Settings} {text : String} {c : Compilation}
    (hformat : SourceFormat.ofText text = .quickSlow) (h : compile settings text = .ok c) (hv : c.Valid) :
    ∃ list t s, QuickSlow.readLines none (cleanLines text.toList) .empty = .ok list ∧
      Template.findByAcross? settings.templates (list.clues.across.map (·.id)) = some t ∧
      c.spec? = some s ∧
      (DateInLine settings list →
        s.clues.across.map (·.id) = t.ids .across ∧
        s.clues.down.map (·.id) = list.clues.down.map (·.id) ∧
        (s.clues.down.map (·.id)).Sublist (t.ids .down) ∧
        ∀ k ∈ t.ids .down, k ∉ s.clues.down.map (·.id) →
          k ∈ t.ids .across ∨ ∀ d, ∀ id ∈ (s.clues.get d).map (·.id), id < k) := by
  obtain ⟨document, hconvert, herrors, hpuzzle⟩ := Compilation.exists_document h hv
  rw [hformat] at hconvert
  obtain ⟨doc, hdoc, rfl⟩ := exists_of_convert_quickSlow hconvert
  obtain ⟨list, t, hlist, hwritable, ht, hfields, hplaced⟩ := fromQuickSlow_inv hdoc
  have hc := hv.projects h
  refine ⟨list, t, _, hlist, ht, hc.spec, fun hdate => ?_⟩
  have hlegible := Puzzle.legible_read doc.text
  have hl : (Puzzle.read doc.text).Lawful :=
    (hlegible.validate_valid_iff herrors).mp (hpuzzle ▸ hc.puzzle)
  have hq := hlegible.outcome herrors hl
  obtain ⟨hs, clues, hread, -, hclues⟩ := (inLine_of_placed hwritable hdate hfields hplaced).readAs herrors
  -- the numbers of a list are kept all the way to the spec
  have hids (d : Direction) :
      ((Puzzle.read doc.text).clues.get d).map (·.id) = (list.clues.get d).map (·.id) := by
    calc ((Puzzle.read doc.text).clues.get d).map (·.id)
        = (((Puzzle.read doc.text).clues.get d).map Clue.toClueLine).map (·.id) := by rw [List.map_map]; rfl
      _ = (clues.get d).map (·.id) := by rw [hclues d]
      _ = (doc.clues.get d).map (·.id) := hread.ids_eq d
      _ = (list.clues.get d).map (·.id) := (Placed.ids_eq (hplaced d)).symm
  have hspec (d : Direction) : ((Spec.ofPuzzle c.puzzle).clues.get d).map (·.id) =
      ((Puzzle.read doc.text).clues.get d).map (·.id) := by
    rw [hpuzzle, hq.get_clues_ofPuzzle, List.map_map]
    rfl
  have hacross : ((Puzzle.read doc.text).clues.get .across).map (·.id) = t.ids .across := by
    rw [hids]
    exact (Template.ids_of_findByAcross? ht).symm
  have hdown : ∀ k ∈ (list.clues.get .down).map (·.id), k ∈ t.ids .down := by
    rw [List.forall_mem_map]
    intro listed hlisted
    obtain ⟨line, -, hp⟩ := exists_of_mem_left (hplaced .down) hlisted
    exact hp.mem_ids
  refine ⟨(hspec .across).trans hacross, (hspec .down).trans (hids .down), ?_, fun k hk hnone => ?_⟩
  · have hgrows := hl.increasing .down
    have hsub : ((Puzzle.read doc.text).clues.get .down).map (·.id) ⊆ t.ids .down := by
      rw [hids]
      exact hdown
    rw [← hspec] at hgrows hsub
    exact List.sublist_of_subperm_of_pairwise (List.subperm_of_subset hgrows.nodup hsub) hgrows
      (t.pairwise_ids .down)
  · simp only [hspec]
    exact omitted hl hacross hk (by rwa [← hspec])

-- The numbers of the clues in the spec.
def specIds (c : Compilation) (d : Direction) : Option (List Nat) :=
  c.spec?.map fun s => (s.clues.get d).map (·.id)

theorem compile_of_fromQuickSlow {settings : Settings} {text : String} {doc : Document}
    (hformat : SourceFormat.ofText text = .quickSlow) (hdoc : fromQuickSlow settings text = .ok doc)
    (herrors : (Puzzle.read doc.text).errors = []) :
    compile settings text = .ok (.ofPuzzle .quickSlow none (Puzzle.read doc.text).validate) := by
  refine Compilation.compile_of_convert hformat ?_ herrors
  rw [convert, hdoc]
  rfl

-- The number down is left out, and nothing is said of it, because there is one across like it.
def acrossList : String := "quick slow\nacross\n1 Pet (3)"

def acrossClues : ClueList := ⟨[], ⟨[⟨1, "Pet", .ofLengths [3]⟩], []⟩⟩

def acrossDocument : Document where
  fields := [("size", "15x15"), ("pubdate", "2019/05/06")]
  clues := ⟨[⟨⟨1, 1⟩, 1, "Pet", "3"⟩], []⟩

theorem ofText_acrossList : SourceFormat.ofText acrossList = .quickSlow := by
  set_option maxRecDepth 4000 in
  decide

-- Only one slot of the template is filled, whatever others it has.
theorem compile_acrossList {t : Template} (hsize : t.size = 15) (hids : t.ids .across = [1])
    (hplaced : placeAll t t.numbering .across acrossClues.clues.across =
      .ok acrossDocument.clues.across) :
    ∃ c, compile { pubdate := "2019/05/06", templates := [t] } acrossList = .ok c ∧ c.Valid ∧
      specIds c .down = some [] := by
  have hlist : QuickSlow.readLines none (cleanLines acrossList.toList) .empty = .ok acrossClues := by
    decide
  have hfields : acrossDocument.fields =
      documentFields { pubdate := "2019/05/06", templates := [t] } t [] := by
    have hside : toString 15 ++ "x" ++ toString 15 = "15x15" := by decide
    rw [documentFields, hsize, hside]
    rfl
  have hdoc : fromQuickSlow { pubdate := "2019/05/06", templates := [t] } acrossList =
      .ok acrossDocument := by
    rw [fromQuickSlow, hlist]
    exact document_ok_iff.mpr ⟨t, List.find?_cons_of_pos (beq_iff_eq.mpr hids), hfields,
      Direction.forall_iff.mpr ⟨placeAll_ok_iff.mp hplaced, .nil⟩⟩
  have hchecked : (Puzzle.read acrossDocument.text).errors = [] ∧
      (Puzzle.read acrossDocument.text).validate.Valid ∧
      specIds (.ofPuzzle .quickSlow none (Puzzle.read acrossDocument.text).validate) .down =
        some [] := by
    decide
  obtain ⟨herrors, hv, hids⟩ := hchecked
  exact ⟨_, compile_of_fromQuickSlow ofText_acrossList hdoc herrors,
    (Compilation.valid_ofPuzzle_iff _ _).mpr hv, hids⟩

theorem compile_acrossList_corner :
    ∃ c, compile { pubdate := "2019/05/06", templates := [corner] } acrossList = .ok c ∧ c.Valid ∧
      specIds c .down = some [] := by
  refine compile_acrossList rfl (ids_corner .across) ?_
  rw [numbering_corner]
  decide

theorem compile_quickSlow_acrossList :
    ∃ c s, SourceFormat.ofText acrossList = .quickSlow ∧
      compile { pubdate := "2019/05/06", templates := [corner] } acrossList = .ok c ∧ c.Valid ∧
      c.spec? = some s ∧ s.clues.across.map (·.id) = corner.ids .across ∧
      (s.clues.down.map (·.id)).Sublist (corner.ids .down) := by
  obtain ⟨c, hc, hv, -⟩ := compile_acrossList_corner
  obtain ⟨list, t, s, -, ht, hs, hslots⟩ := compile_quickSlow ofText_acrossList hc hv
  obtain rfl : t = corner := List.mem_singleton.mp (List.mem_of_find?_eq_some ht)
  obtain ⟨hacross, -, hdown, -⟩ := hslots (.inr (by decide))
  exact ⟨c, s, ofText_acrossList, hc, hv, hs, hacross, hdown⟩

-- A slot down behind all others.
def trailing : Template where
  name := "trailing"
  rows := ["...############", "###############", ".##############", ".##############"] ++
    List.replicate 11 "###############"

def trailingStarts : List NumberedCell :=
  [⟨⟨1, 1⟩, ⟨some (slotOf 3), none⟩⟩, ⟨⟨1, 3⟩, ⟨none, some (slotOf 2)⟩⟩]

theorem numbering_trailing :
    trailing.numbering = ⟨numberFrom 1 trailingStarts, ascending_numberFrom 1 trailingStarts⟩ := by
  let word := List.replicate 3 '.' ++ List.replicate 12 '#'
  let letter := '.' :: List.replicate 14 '#'
  let blocks := List.replicate 15 '#'
  have hrows : trailing.rows =
      ([word, blocks, letter, letter] ++ List.replicate 11 blocks).map String.ofList := by
    rfl
  set_option maxRecDepth 4000 in
  exact Template.numbering_of_lines hrows (by decide) (by decide) (by decide)

-- A slot down in front of one across.
def leading : Template where
  name := "leading"
  rows := [".#...##########", ".##############", ".##############"] ++
    List.replicate 12 "###############"

def leadingStarts : List NumberedCell :=
  [⟨⟨1, 1⟩, ⟨none, some (slotOf 3)⟩⟩, ⟨⟨3, 1⟩, ⟨some (slotOf 3), none⟩⟩]

theorem numbering_leading :
    leading.numbering = ⟨numberFrom 1 leadingStarts, ascending_numberFrom 1 leadingStarts⟩ := by
  let word := '.' :: '#' :: (List.replicate 3 '.' ++ List.replicate 10 '#')
  let letter := '.' :: List.replicate 14 '#'
  let blocks := List.replicate 15 '#'
  have hrows : leading.rows =
      ([word, letter, letter] ++ List.replicate 12 blocks).map String.ofList := by
    rfl
  set_option maxRecDepth 4000 in
  exact Template.numbering_of_lines hrows (by decide) (by decide) (by decide)

def leadingList : String := "quick slow\nacross\n2 Pet (3)\ndown\n1 Cow (3)"

def leadingClues : ClueList :=
  ⟨[], ⟨[⟨2, "Pet", .ofLengths [3]⟩], [⟨1, "Cow", .ofLengths [3]⟩]⟩⟩

-- More than a date.
def dateAndClue : String := "2019/05/06\nacross\n- (1,1) 1. Foo (1)"

def leadingDocument : Document where
  fields := [("size", "15x15"), ("pubdate", dateAndClue)]
  clues := ⟨[⟨⟨3, 1⟩, 2, "Pet", "3"⟩], [⟨⟨1, 1⟩, 1, "Cow", "3"⟩]⟩

theorem fromQuickSlow_leadingList :
    fromQuickSlow { pubdate := dateAndClue, templates := [leading] } leadingList =
      .ok leadingDocument := by
  have hlist : QuickSlow.readLines none (cleanLines leadingList.toList) .empty = .ok leadingClues := by
    decide
  have hids : leading.ids .across = [2] := by
    rw [Template.ids, numbering_leading]
    rfl
  have hplaced (d : Direction) : placeAll leading leading.numbering d (leadingClues.clues.get d) =
      .ok (leadingDocument.clues.get d) := by
    rw [numbering_leading]
    cases d <;> decide
  rw [fromQuickSlow, hlist]
  exact document_ok_iff.mpr ⟨leading, List.find?_cons_of_pos (beq_iff_eq.mpr hids), by decide,
    fun d => placeAll_ok_iff.mp (hplaced d)⟩

-- Slots are left out of a valid puzzle in two ways, and a date of more than one line can add one.
theorem lost_slots :
    (∃ c, compile { pubdate := "2019/05/06", templates := [corner] } acrossList = .ok c ∧ c.Valid ∧
      specIds c .down = some [] ∧ corner.ids .down = [1]) ∧
    (∃ c, compile { pubdate := "2019/05/06", templates := [trailing] } acrossList = .ok c ∧ c.Valid ∧
      specIds c .down = some [] ∧ trailing.ids .down = [2]) ∧
    ∃ c, compile { pubdate := dateAndClue, templates := [leading] } leadingList = .ok c ∧ c.Valid ∧
      specIds c .across = some [1, 2] ∧ leading.ids .across = [2] := by
  have htrailing : trailing.ids .across = [1] ∧ trailing.ids .down = [2] := by
    rw [Template.ids, Template.ids, numbering_trailing]
    exact ⟨rfl, rfl⟩
  have hplaced : placeAll trailing trailing.numbering .across acrossClues.clues.across =
      .ok acrossDocument.clues.across := by
    rw [numbering_trailing]
    decide
  have hleading : leading.ids .across = [2] := by
    rw [Template.ids, numbering_leading]
    rfl
  have hformat : SourceFormat.ofText leadingList = .quickSlow := by
    set_option maxRecDepth 4000 in
    decide
  have hchecked : (Puzzle.read leadingDocument.text).errors = [] ∧
      (Puzzle.read leadingDocument.text).validate.Valid ∧
      specIds (.ofPuzzle .quickSlow none (Puzzle.read leadingDocument.text).validate) .across =
        some [1, 2] := by
    set_option maxRecDepth 4000 in
    decide
  obtain ⟨c, hc, hv, hids⟩ := compile_acrossList_corner
  obtain ⟨c', hc', hv', hids'⟩ := compile_acrossList rfl htrailing.1 hplaced
  refine ⟨⟨c, hc, hv, hids, ids_corner .down⟩, ⟨c', hc', hv', hids', htrailing.2⟩,
    _, compile_of_fromQuickSlow hformat fromQuickSlow_leadingList hchecked.1,
    (Compilation.valid_ofPuzzle_iff _ _).mpr hchecked.2.1, hchecked.2.2, hleading⟩

end Import

end Cruciverb
