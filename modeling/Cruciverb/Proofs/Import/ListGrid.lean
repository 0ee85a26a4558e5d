import Cruciverb.Proofs.Import.ClueLists
import Cruciverb.Proofs.Projections
import Cruciverb.Proofs.Puzzle.Drawing

namespace Cruciverb

-- The entries that are found again by the keys of others in the same order.
theorem filterMap_find?_eq {α β : Type} {key : β → Nat} {keep : Nat × α → Bool}
    {entries : List (Nat × α)} (hasc : entries.Pairwise (·.1 < ·.1)) {bs : List β}
    (h : bs.map key = (entries.filter keep).map (·.1)) :
    (entries.filterMap fun e => bs.find? fun b => key b == e.1) = bs := by
  induction entries generalizing bs with
  | nil => exact (List.map_eq_nil_iff.mp h).symm
  | cons e rest ih =>
    rw [List.pairwise_cons] at hasc
    by_cases he : keep e = true
    · rw [List.filter_cons_of_pos he, List.map_cons] at h
      obtain ⟨b, bs, rfl, hb, hbs⟩ := List.map_eq_cons_iff.mp h
      have hfound : ((b :: bs).find? fun b => key b == e.1) = some b :=
        List.find?_cons_of_pos (by simpa using hb)
      rw [List.filterMap_cons, hfound]
      refine congrArg (b :: ·) ((List.filterMap_congr fun f hf => ?_).trans (ih hasc.2 hbs))
      have hlt : key b < f.1 := hb ▸ hasc.1 f hf
      exact List.find?_cons_of_neg (by simpa using Nat.ne_of_lt hlt)
    · rw [List.filter_cons_of_neg he] at h
      have hnone : (bs.find? fun b => key b == e.1) = none := by
        rw [List.find?_eq_none]
        intro b hb hkey
        have hmem : key b ∈ (rest.filter keep).map (·.1) := h ▸ List.mem_map_of_mem hb
        obtain ⟨f, hf, heq⟩ := List.mem_map.mp hmem
        have hlt := hasc.1 f (List.mem_filter.mp hf).1
        rw [beq_iff_eq] at hkey
        omega
      rw [List.filterMap_cons, hnone]
      exact ih hasc.2 h

namespace Import

open Cruciverb.Answer Cruciverb.Text

namespace QuickSlow

-- There is a clue for each slot, and no word is empty.
structure Complete (t : Template) (list : ClueList) : Prop where
  clued : list.clues.across ≠ [] ∨ list.clues.down ≠ []
  down : list.clues.down.map (·.id) = t.ids .down
  positive : ∀ d, ∀ clue ∈ list.clues.get d, ∀ n ∈ clue.format.parts, 0 < n.toNat

theorem complete_iff {t : Template} {list : ClueList} : Complete t list ↔
    (list.clues.across ≠ [] ∨ list.clues.down ≠ []) ∧ list.clues.down.map (·.id) = t.ids .down ∧
      ∀ d, ∀ clue ∈ list.clues.get d, ∀ n ∈ clue.format.parts, 0 < n.toNat :=
  ⟨fun h => ⟨h.clued, h.down, h.positive⟩, fun h => ⟨h.1, h.2.1, h.2.2⟩⟩

instance (t : Template) (list : ClueList) : Decidable (Complete t list) :=
  decidable_of_iff' _ complete_iff

-- The grid of a template in a spec.
structure OnTemplate (t : Template) (shape : Shape) (s : Spec) : Prop where
  side : s.side = t.size
  grid : Square t.size s.grid
  filled_iff : ∀ c, c.Within t.size → (entryAt s.grid c = some 'X' ↔ shape.InRun c)
  gridnums : Square t.size s.gridnums
  number_iff : ∀ c, c.Within t.size → ∀ k, 0 < k →
    (entryAt s.gridnums c = some k ↔ ∃ cell, t.numbering.get? k = some cell ∧ cell.position = c)

variable {settings : Settings} {list : ClueList} {t : Template} {p : Puzzle} {s : Shape}

-- A clue tells of its slot, since its lengths add up to those of the slot.
theorem Placed.tells {d : Direction} {listed : Listed} {clue : Clue} (h : Placed t d listed clue.toClueLine)
    (hlisted : listed.Writable) (hpos : ∀ n ∈ listed.format.parts, 0 < n.toNat)
    (hs : t.shape? = some s) {e : Nat × NumberedCell}
    (he : e ∈ s.numbering.entries) (hid : clue.id = e.1) : clue.Tells d e := by
  obtain ⟨cell, slot, hcell, hposition, hslot, hlength, -⟩ := h.slot
  rw [Template.numbering_of_shape? hs, ← h.id, hid] at hcell
  obtain rfl : e.2 = cell := Option.some.inj ((Table.mem_entries_iff.mp he).symm.trans hcell)
  have hanswer : clue.answer.toList = listed.format.text := by
    rw [h.answer, String.toList_ofList]
  obtain ⟨-, hscan⟩ := Shape.get_starts_of_mem_numbering he hslot
  refine ⟨hid, hposition, ?_, ?_⟩
  · rw [hslot, hanswer, Format.lettersOf_display hlisted.format, ← hscan,
      Template.slot_eq_replicate hs, hscan, hlength]
  · rw [hanswer, Format.wordsOf_display hlisted.format, List.forall_mem_map]
    intro n hn hnil
    have := hpos n hn
    rw [List.replicate_eq_nil_iff] at hnil
    omega

theorem ReadBack.draws (h : ReadBack settings list t p) (hlist : list.Writable)
    (hids : ∀ d, (list.clues.get d).map (·.id) = t.ids d)
    (hpos : ∀ d, ∀ clue ∈ list.clues.get d, ∀ n ∈ clue.format.parts, 0 < n.toNat)
    (hs : t.shape? = some s) :
    p.Draws s fun d e => (p.clues.get d).find? fun clue => clue.id == e.1 := by
  have hkeys (d : Direction) : (p.clues.get d).map (·.id) =
      (s.numbering.entries.filter fun e => (e.2.starts.get d).isSome).map (·.1) := by
    rw [h.ids_eq, hids, Template.ids, Template.numbering_of_shape? hs]
  constructor
  case side => rw [h.side, Template.size_of_shape? hs]
  case clues => exact fun d => (filterMap_find?_eq s.numbering.ascending (hkeys d)).symm
  case tells =>
    intro d e he clue hclue
    have hid : clue.id = e.1 := by simpa using List.find?_some hclue
    obtain ⟨listed, hlisted, hp⟩ := exists_of_mem_right (h.clues d) (List.mem_of_find?_eq_some hclue)
    exact hp.tells (hlist.clues d listed hlisted) (hpos d listed hlisted) hs he hid
  case told =>
    intro d e he letters hletters
    have hmem : e.1 ∈ (p.clues.get d).map (·.id) := by
      rw [hkeys]
      exact List.mem_map_of_mem (List.mem_filter.mpr ⟨he, by rw [hletters]; rfl⟩)
    obtain ⟨clue, hclue, hid⟩ := List.mem_map.mp hmem
    rw [← Option.isSome_iff_exists, List.find?_isSome]
    exact ⟨clue, hclue, by simpa using hid⟩

-- The number of a clue has a slot in the template.
theorem Placed.exists_starts {d : Direction} {listed : Listed} {line : ClueLine}
    (h : Placed t d listed line) : ∃ s c, t.shape? = some s ∧ s.starts c d = true := by
  obtain ⟨cell, slot, hcell, -, hslot, -⟩ := h.slot
  obtain ⟨s, hs, he⟩ := Template.exists_shape?_of_get? hcell
  exact ⟨s, _, hs, (Shape.get_starts_of_mem_numbering he hslot).1⟩

theorem onTemplate_ofPuzzle {q : Puzzle} {clue? : Direction → Nat × NumberedCell → Option Clue}
    (hdraws : p.Draws s clue?) (hs : t.shape? = some s) (hl : p.Lawful) (hq : p.Outcome q)
    (hvisible : ∀ e ∈ p.entries, e.Visible) : OnTemplate t s (Spec.ofPuzzle q) := by
  have hsize : p.dimensions.side = t.size := by rw [hdraws.side, Template.size_of_shape? hs]
  obtain ⟨grid, hgrid, hshows⟩ := hq.grid
  constructor
  all_goals rw [← hsize]
  case side => exact hq.side_ofPuzzle
  case grid =>
    rw [hq.grid_ofPuzzle hgrid]
    exact (square_rowsOf hshows.length).map _
  case filled_iff =>
    intro c hc
    rw [hq.entryAt_grid_iff hvisible hc, ← Shape.inSlot_iff_inRun, ← hdraws.exists_puts_iff]
    rfl
  case gridnums =>
    rw [hq.gridnums_ofPuzzle]
    exact Spec.square_numberRows _ _
  case number_iff =>
    intro c hc k hk
    rw [hq.entryAt_gridnums_iff hl hc hk, hdraws.exists_id_iff, Template.numbering_of_shape? hs]
    simp only [Table.mem_entries_iff]

end QuickSlow

open QuickSlow

-- The document of a complete list is valid, and on the grid of its template.
theorem compile_fromQuickSlow {settings : Settings} {text : String} {doc : Document}
    (hdate : Line.isDateShape settings.pubdate.toList = true)
    (h : fromQuickSlow settings text = .ok doc) :
    ∃ list t, QuickSlow.readLines none (cleanLines text.toList) .empty = .ok list ∧
      Template.findByAcross? settings.templates (list.clues.across.map (·.id)) = some t ∧
      (t.size = 15 ∨ t.size = 17 → Complete t list → ∀ settings', ∃ c,
        compile settings' doc.text = .ok c ∧ c.Valid ∧
          ∃ shape s, t.shape? = some shape ∧ c.spec? = some s ∧ OnTemplate t shape s) := by
  obtain ⟨list, t, hlist, hwritable, ht, hfields, hplaced⟩ := fromQuickSlow_inv h
  refine ⟨list, t, hlist, ht, fun hsize hcomplete settings' => ?_⟩
  obtain ⟨dimensions, hsize⟩ := dimensions_of_size hsize
  have hback := read_document hwritable hdate hsize hfields hplaced
  have hlegible := Puzzle.legible_read doc.text
  have hids : ∀ d, (list.clues.get d).map (·.id) = t.ids d :=
    Direction.forall_iff.mpr ⟨(Template.ids_of_findByAcross? ht).symm, hcomplete.down⟩
  have hslot : ∃ s c d, t.shape? = some s ∧ s.starts c d = true := by
    obtain ⟨d, hne⟩ : ∃ d, list.clues.get d ≠ [] :=
      hcomplete.clued.elim (fun h => ⟨.across, h⟩) fun h => ⟨.down, h⟩
    obtain ⟨listed, hlisted⟩ := List.exists_mem_of_ne_nil _ hne
    obtain ⟨line, -, hp⟩ := exists_of_mem_left (hplaced d) hlisted
    obtain ⟨s, c, hs, hc⟩ := hp.exists_starts
    exact ⟨s, c, d, hs, hc⟩
  obtain ⟨s, c, d, hs, hstarts⟩ := hslot
  have hdraws := hback.draws hwritable hids hcomplete.positive hs
  have hl := hdraws.lawful ⟨c, d, hstarts⟩
  have hq := hlegible.outcome hback.errors hl
  have hv := (Compilation.valid_ofPuzzle_iff .document none).mpr hq.errors
  refine ⟨_, Compilation.compile_of_read hback.errors settings', hv, s, _, hs,
    (Compilation.projects_ofPuzzle hv).spec, ?_⟩
  exact onTemplate_ofPuzzle hdraws hs hl hq hlegible.visible_entries

-- One word across and one down from the same cell.
def corner : Template where
  name := "corner"
  rows := ["...############", ".##############", ".##############"] ++
    List.replicate 12 "###############"

def cornerStarts : List NumberedCell := [⟨⟨1, 1⟩, ⟨some (slotOf 3), some (slotOf 3)⟩⟩]

theorem numbering_corner :
    corner.numbering = ⟨numberFrom 1 cornerStarts, ascending_numberFrom 1 cornerStarts⟩ := by
  let word := List.replicate 3 '.' ++ List.replicate 12 '#'
  let letter := '.' :: List.replicate 14 '#'
  let blocks := List.replicate 15 '#'
  have hrows : corner.rows =
      ([word, letter, letter] ++ List.replicate 12 blocks).map String.ofList := by
    rfl
  set_option maxRecDepth 4000 in
  exact Template.numbering_of_lines hrows (by decide) (by decide) (by decide)

theorem ids_corner (d : Direction) : corner.ids d = [1] := by
  rw [Template.ids, numbering_corner]
  cases d <;> rfl

theorem findByAcross?_corner : Template.findByAcross? [corner] [1] = some corner :=
  List.find?_cons_of_pos (beq_iff_eq.mpr (ids_corner .across))

def cornerList : String := "quick slow\nacross\n1 Pet (3)\ndown\n1 Fish (1-2)"

def cornerClues : ClueList where
  fields := []
  clues := ⟨[⟨1, "Pet", .ofLengths [3]⟩], [⟨1, "Fish", [1, 2], [.hyphen], by decide⟩]⟩

theorem compile_fromQuickSlow_cornerList :
    ∃ doc list c s shape, Line.isDateShape "2019/05/06".toList = true ∧
      fromQuickSlow { pubdate := "2019/05/06", templates := [corner] } cornerList = .ok doc ∧
      corner.size = 15 ∧ Complete corner list ∧
      compile { pubdate := "2019/05/06" } doc.text = .ok c ∧ c.Valid ∧ c.spec? = some s ∧
      OnTemplate corner shape s := by
  have hdate : Line.isDateShape "2019/05/06".toList = true := by decide
  have hread : QuickSlow.readLines none (cleanLines cornerList.toList) .empty = .ok cornerClues := by
    decide
  have hplaced (d : Direction) : ∃ lines,
      placeAll corner corner.numbering d (cornerClues.clues.get d) = .ok lines := by
    rw [numbering_corner]
    cases d <;> exact ⟨_, rfl⟩
  obtain ⟨doc, hdoc⟩ : ∃ doc,
      fromQuickSlow { pubdate := "2019/05/06", templates := [corner] } cornerList = .ok doc :=
    exists_fromQuickSlow hread findByAcross?_corner hplaced
  obtain ⟨list, t, hlist, ht, hcompile⟩ := compile_fromQuickSlow hdate hdoc
  obtain rfl : t = corner := List.mem_singleton.mp (List.mem_of_find?_eq_some ht)
  obtain rfl : cornerClues = list := Except.ok.inj (hread.symm.trans hlist)
  have hcomplete : Complete corner cornerClues :=
    ⟨.inl (by decide), (ids_corner .down).symm, Direction.forall_iff.mpr (by decide)⟩
  obtain ⟨c, hc, hv, shape, s, -, hs, hon⟩ := hcompile (.inl rfl) hcomplete { pubdate := "2019/05/06" }
  exact ⟨doc, cornerClues, c, s, shape, hdate, hdoc, rfl, hcomplete, hc, hv, hs, hon⟩

end Import

end Cruciverb
