import Cruciverb.Proofs.Answer.Settling
import Cruciverb.Proofs.Puzzle.Outcome

namespace Cruciverb

open Cruciverb.Answer

structure Clue.Retells (rename : Char → Char) (c c' : Clue) : Prop where
  id : c'.id = c.id
  position : c'.position = c.position
  words : wordsOf c'.answer.toList = (wordsOf c.answer.toList).map (·.map rename)

namespace Clue.Retells

variable {rename : Char → Char} {c c' : Clue}

theorem letters (h : c.Retells rename c') :
    lettersOf c'.answer.toList = (lettersOf c.answer.toList).map rename := by
  rw [lettersOf, h.words, lettersOf, List.map_flatten]

-- The same in terms of entries.
theorem entry_id (h : c.Retells rename c') (d : Direction) :
    (Entry.mk d c').id = (Entry.mk d c).id := h.id

theorem entry_position (h : c.Retells rename c') (d : Direction) :
    (Entry.mk d c').position = (Entry.mk d c).position := h.position

theorem entry_letters (h : c.Retells rename c') (d : Direction) :
    (Entry.mk d c').letters = (Entry.mk d c).letters.map rename := h.letters

theorem puts_iff (h : c.Retells rename c') (d : Direction) (cell : Coord) (l : Char) :
    (Entry.mk d c').Puts cell l ↔ ∃ m, (Entry.mk d c).Puts cell m ∧ rename m = l := by
  simp only [Entry.Puts, h.entry_letters, h.entry_position, List.getElem?_map,
    Option.map_eq_some_iff]
  constructor
  · rintro ⟨n, hn, m, hm, hl⟩
    exact ⟨m, ⟨n, hn, hm⟩, hl⟩
  · rintro ⟨m, ⟨n, hn, hm⟩, hl⟩
    exact ⟨n, hn, m, hm, hl⟩

theorem sound {side : Nat} {d : Direction} (h : c.Retells rename c')
    (hs : (Entry.mk d c).Sound side) : (Entry.mk d c').Sound side := by
  refine ⟨?_, ?_, ?_, ?_⟩
  · rw [h.entry_id]
    exact hs.id_pos
  · rw [h.entry_position]
    exact hs.within
  · intro w hw
    rw [h.words] at hw
    obtain ⟨v, hv, rfl⟩ := List.mem_map.mp hw
    simpa using hs.words v hv
  · rw [Entry.Fits, h.entry_letters, h.entry_position, List.length_map]
    exact hs.fits

end Clue.Retells

namespace Clue

theorem answer_settled (c : Clue) : c.settled.answer.toList = (unpack c.answer.toList).answer :=
  String.toList_ofList

theorem retells_settled (c : Clue) : c.Retells id c.settled := by
  refine ⟨rfl, rfl, ?_⟩
  rw [answer_settled, wordsOf_unpack_answer]
  simp

theorem unpack_settled {c : Clue} (hwords : ∀ w ∈ wordsOf c.answer.toList, w ≠ []) :
    unpack c.settled.answer.toList = unpack c.answer.toList := by
  rw [answer_settled, unpack_unpack hwords]

theorem settled_settled {c : Clue} (hwords : ∀ w ∈ wordsOf c.answer.toList, w ≠ []) :
    c.settled.settled = c.settled := by
  rw [settled, unpack_settled hwords]
  rfl

end Clue

namespace Puzzle

-- The clues of the second text are those of the first, one by one.
structure Retells (rename : Char → Char) (retold : Clue → Clue) (p p' : Puzzle) : Prop where
  dimensions : p'.dimensions = p.dimensions
  clues : p'.clues = p.clues.map (·.map retold)
  retells : ∀ d, ∀ c ∈ p.clues.get d, c.Retells rename (retold c)

namespace Retells

variable {rename : Char → Char} {retold : Clue → Clue} {p p' q q' : Puzzle}

theorem get_clues (h : p.Retells rename retold p') (d : Direction) :
    p'.clues.get d = (p.clues.get d).map retold := by
  rw [h.clues, Both.get_map]

theorem mem_entries_iff (h : p.Retells rename retold p') {e' : Entry} :
    e' ∈ p'.entries ↔ ∃ e ∈ p.entries, (⟨e.direction, retold e.clue⟩ : Entry) = e' := by
  rw [mem_entries, h.get_clues, List.mem_map]
  constructor
  · rintro ⟨c, hc, hcc⟩
    exact ⟨⟨e'.direction, c⟩, mem_entries.mpr hc, by rw [hcc]⟩
  · rintro ⟨e, he, rfl⟩
    exact ⟨e.clue, mem_entries.mp he, rfl⟩

theorem entry (h : p.Retells rename retold p') {e : Entry} (he : e ∈ p.entries) :
    e.clue.Retells rename (retold e.clue) :=
  h.retells e.direction e.clue (mem_entries.mp he)

theorem get_ids_eq (h : p.Retells rename retold p') (d : Direction) :
    (p'.clues.get d).map (·.id) = (p.clues.get d).map (·.id) := by
  rw [h.get_clues, List.map_map]
  exact List.map_congr_left fun c hc => (h.retells d c hc).id

theorem ids_eq (h : p.Retells rename retold p') : p'.ids = p.ids := by
  have hacross := h.get_ids_eq .across
  have hdown := h.get_ids_eq .down
  simp only [Both.get] at hacross hdown
  simp only [ids, entries_eq, List.map_append, List.map_map]
  exact congrArg₂ (· ++ ·) hacross hdown

theorem starts_iff (h : p.Retells rename retold p') (k : Nat) (pos : Coord) :
    (∃ e ∈ p'.entries, e.id = k ∧ e.position = pos) ↔
      ∃ e ∈ p.entries, e.id = k ∧ e.position = pos := by
  constructor
  · rintro ⟨e', he', rfl, rfl⟩
    obtain ⟨e, he, rfl⟩ := h.mem_entries_iff.mp he'
    exact ⟨e, he, (h.entry he).id.symm, (h.entry he).position.symm⟩
  · rintro ⟨e, he, rfl, rfl⟩
    exact ⟨_, h.mem_entries_iff.mpr ⟨e, he, rfl⟩, (h.entry he).id, (h.entry he).position⟩

theorem lawful (h : p.Retells rename retold p') (hl : p.Lawful) : p'.Lawful := by
  obtain ⟨hclued, hinc, hsound, hagree, hnum, hord⟩ := hl
  refine ⟨?_, ?_, ?_, ?_, ?_, ?_⟩
  · obtain ⟨e, he⟩ := List.exists_mem_of_ne_nil _ hclued
    exact List.ne_nil_of_mem (h.mem_entries_iff.mpr ⟨e, he, rfl⟩)
  · intro d
    rw [h.get_ids_eq]
    exact hinc d
  · intro e' he'
    obtain ⟨e, he, rfl⟩ := h.mem_entries_iff.mp he'
    rw [h.dimensions]
    exact (h.entry he).sound (hsound e he)
  · intro e' he' f' hf'
    obtain ⟨e, he, rfl⟩ := h.mem_entries_iff.mp he'
    obtain ⟨f, hf, rfl⟩ := h.mem_entries_iff.mp hf'
    constructor
    · intro hid
      have hpos := (hagree e he f hf).position
        (((h.entry he).id.symm.trans hid).trans (h.entry hf).id)
      exact ((h.entry he).position.trans hpos).trans (h.entry hf).position.symm
    · intro c l m hl hm
      obtain ⟨l₀, hl₀, rfl⟩ := ((h.entry he).puts_iff e.direction c l).mp hl
      obtain ⟨m₀, hm₀, rfl⟩ := ((h.entry hf).puts_iff f.direction c m).mp hm
      rw [(hagree e he f hf).letter c l₀ m₀ hl₀ hm₀]
  · rw [maxId, h.ids_eq]
    exact hnum
  · intro e' he' f' hf' hnext
    obtain ⟨e, he, rfl⟩ := h.mem_entries_iff.mp he'
    obtain ⟨f, hf, rfl⟩ := h.mem_entries_iff.mp hf'
    rw [(h.entry he).entry_id, (h.entry hf).entry_id] at hnext
    rw [(h.entry he).entry_position, (h.entry hf).entry_position]
    exact hord e he f hf hnext

theorem visible (h : p.Retells rename retold p') (hvisible : ∀ e ∈ p.entries, e.Visible)
    (hrename : ∀ l, l ≠ blankCell → rename l ≠ blankCell) : ∀ e ∈ p'.entries, e.Visible := by
  intro e' he' l hl
  obtain ⟨e, he, rfl⟩ := h.mem_entries_iff.mp he'
  rw [(h.entry he).entry_letters] at hl
  obtain ⟨m, hm, rfl⟩ := List.mem_map.mp hl
  exact hrename m (hvisible e he m hm)

-- Cells that are blank stay so.
def renameCell (rename : Char → Char) (c : Char) : Char :=
  if c = blankCell then blankCell else rename c

theorem renameCell_id (c : Char) : renameCell id c = c := by
  rw [renameCell]
  split
  · next h => exact h.symm
  · rfl

theorem shows (h : p.Retells rename retold p') {side : Nat} {grid : List Char}
    (hvisible : ∀ e ∈ p.entries, e.Visible) (hg : Shows side p.entries grid) :
    Shows side p'.entries (grid.map (renameCell rename)) := by
  refine ⟨by rw [List.length_map, hg.length], ?_, ?_⟩
  · intro e' he' c l hl
    obtain ⟨e, he, rfl⟩ := h.mem_entries_iff.mp he'
    obtain ⟨m, hm, rfl⟩ := ((h.entry he).puts_iff e.direction c l).mp hl
    have hne : m ≠ blankCell := hvisible e he m hm.mem_letters
    rw [List.getElem?_map, hg.letter e he c m hm, Option.map_some, renameCell, if_neg hne]
  · intro c hc hnone
    have hnone' : ∀ e ∈ p.entries, ∀ l, ¬ e.Puts c l := fun e he l hl =>
      hnone _ (h.mem_entries_iff.mpr ⟨e, he, rfl⟩) (rename l)
        (((h.entry he).puts_iff e.direction c (rename l)).mpr ⟨l, hl, rfl⟩)
    rw [List.getElem?_map, hg.blank c hc hnone']
    rfl

theorem starts_eq (h : p.Retells rename retold p') (hq : p.Outcome q) (hq' : p'.Outcome q') :
    q'.starts.map (·.position) = q.starts.map (·.position) := by
  apply Table.ext_get?
  intro k
  rw [Table.get?_map, Table.get?_map, Option.ext_iff]
  intro pos
  rw [hq.starts, hq'.starts, h.starts_iff]

theorem grid_eq (h : p.Retells rename retold p') (hvisible : ∀ e ∈ p.entries, e.Visible)
    (hq : p.Outcome q) (hq' : p'.Outcome q') :
    q'.grid = q.grid.map (·.map (renameCell rename)) := by
  obtain ⟨grid, hgrid, hg⟩ := hq.grid
  obtain ⟨grid', hgrid', hg'⟩ := hq'.grid
  rw [h.dimensions] at hg'
  rw [hgrid, hgrid', Option.map_some,
    hg'.unique (h.shows hvisible hg) fun _ _ => Iff.rfl]

theorem answers_eq (h : p.Retells rename retold p') (hq' : p'.Outcome q') :
    q'.answers = some (p.clues.map (·.map fun c =>
      String.ofList ((lettersOf c.answer.toList).map rename))) := by
  rw [hq'.answers, h.clues, Both.map_map_lists]
  apply congrArg some
  apply Both.map_lists_congr
  intro d c hc
  rw [Function.comp_apply, (h.retells d c hc).letters]

end Retells

namespace Outcome

variable {p q : Puzzle}

-- Checking changes how an answer is written, but not its words.
theorem retells_settled (hq : p.Outcome q) : p.Retells id Clue.settled q where
  dimensions := hq.dimensions
  clues := hq.clues
  retells _ c _ := c.retells_settled

theorem settled_eq (hq : p.Outcome q) (hl : p.Lawful) {d : Direction} {c : Clue}
    (hc : c ∈ q.clues.get d) : c.settled = c := by
  rw [hq.retells_settled.get_clues] at hc
  obtain ⟨c₀, hc₀, rfl⟩ := List.mem_map.mp hc
  exact Clue.settled_settled (hl.sound ⟨d, c₀⟩ (mem_entries.mpr hc₀)).words

-- A checked puzzle is what checking would make of it.
theorem self (hq : p.Outcome q) (hl : p.Lawful) (hvisible : ∀ e ∈ p.entries, e.Visible) :
    q.Outcome q := by
  have hretells := hq.retells_settled
  refine ⟨fun _ => rfl, rfl, ?_, hq.errors, ?_, ?_, fun k pos => ?_, ?_⟩
  · apply Both.ext_get
    intro d
    rw [Both.get_map, List.map_congr_left fun c hc => hq.settled_eq hl hc, List.map_id']
  · rw [hq.side, hq.dimensions]
  · obtain ⟨grid, hgrid, hshows⟩ := hq.grid
    have hshows' := hretells.shows hvisible hshows
    rw [funext Retells.renameCell_id, List.map_id'] at hshows'
    exact ⟨grid, hgrid, hq.dimensions ▸ hshows'⟩
  · rw [hq.starts, hretells.starts_iff]
  · rw [hq.answers, hq.clues, Both.map_map_lists]
    refine congrArg some (Both.map_lists_congr fun d c hc => ?_)
    rw [Function.comp_apply, c.retells_settled.letters, List.map_id]

end Outcome

end Puzzle

end Cruciverb
