import Cruciverb.Proofs.Answer.Lengths
import Cruciverb.Proofs.Document.Legible
import Cruciverb.Proofs.Puzzle.Walk
import Cruciverb.Proofs.Table

namespace Cruciverb

open Cruciverb.Answer

section Numbering

variable {side : Nat} {es : List Entry} {w : Walk}

theorem missingIds_eq_nil_iff : missingIds w = [] ↔
    ∀ k, 1 ≤ k → k ≤ w.maxId → (w.starts.get? k).isSome := by
  rw [missingIds, List.filter_eq_nil_iff]
  simp only [List.mem_range'_1, Table.contains, Bool.not_eq_true', Bool.not_eq_false]
  refine forall_congr' fun k => ⟨fun h h1 h2 => h ⟨h1, by omega⟩, fun h h' => h h'.1 (by omega)⟩

theorem misplaced?_eq_none_iff {a b : Nat × Clue} (ha : a.2.position.Within side)
    (hb : b.2.position.Within side) :
    misplaced? side (a, b) = none ↔ a.2.position.Before b.2.position := by
  rw [misplaced?, ← Coord.ordinal_lt_iff ha hb]
  repeat' split
  all_goals simp_all

theorem isSome_starts_iff (hn : w.Notes es) (k : Nat) :
    (w.starts.get? k).isSome ↔ k ∈ es.map Entry.id := by
  rw [List.mem_map, Option.isSome_iff_exists]
  constructor
  · rintro ⟨c, hc⟩
    obtain ⟨e, he, hid, -⟩ := (hn.starts k c.position).mp (by rw [hc]; rfl)
    exact ⟨e, he, hid⟩
  · rintro ⟨e, he, hid⟩
    obtain ⟨c, hc, -⟩ := Option.map_eq_some_iff.mp ((hn.starts k e.position).mpr ⟨e, he, hid, rfl⟩)
    exact ⟨c, hc⟩

theorem missingIds_iff_numbered (hn : w.Notes es) (hsound : ∀ e ∈ es, e.Sound side) :
    missingIds w = [] ↔ ∀ k, k ∈ es.map Entry.id ↔ 1 ≤ k ∧ k ≤ w.maxId := by
  rw [missingIds_eq_nil_iff]
  apply forall_congr'
  intro k
  rw [isSome_starts_iff hn]
  constructor
  · refine fun h => ⟨fun hk => ?_, fun hk => h hk.1 hk.2⟩
    obtain ⟨e, he, rfl⟩ := List.mem_map.mp hk
    exact ⟨(hsound e he).id_pos, (hn.maxId w.maxId).mp (Nat.le_refl _) e he⟩
  · exact fun h h1 h2 => h.mpr ⟨h1, h2⟩

theorem Walk.Notes.exists_start (hn : w.Notes es) {e : Entry} (he : e ∈ es) :
    ∃ c : Clue, (e.id, c) ∈ w.starts.entries ∧ c.position = e.position := by
  obtain ⟨c, hc, hpos⟩ :=
    Option.map_eq_some_iff.mp ((hn.starts e.id e.position).mpr ⟨e, he, rfl, rfl⟩)
  exact ⟨c, Table.mem_entries_iff.mpr hc, hpos⟩

theorem Walk.Notes.exists_entry (hn : w.Notes es) {a : Nat × Clue} (ha : a ∈ w.starts.entries) :
    ∃ e ∈ es, e.id = a.1 ∧ e.position = a.2.position :=
  (hn.starts a.1 a.2.position).mp (by rw [Table.mem_entries_iff.mp ha]; rfl)

theorem Walk.Notes.keys_eq (hn : w.Notes es)
    (hnum : ∀ k, k ∈ es.map Entry.id ↔ 1 ≤ k ∧ k ≤ w.maxId) :
    w.starts.keys = List.range' 1 w.maxId :=
  Table.keys_eq_range' fun k => (isSome_starts_iff hn k).trans (hnum k)

-- Without a gap in the ids, the neighbours in the table are the clues whose ids follow one another.
theorem firstMisplaced?_eq_none_iff (hn : w.Notes es) (hsound : ∀ e ∈ es, e.Sound side)
    (hnum : ∀ k, k ∈ es.map Entry.id ↔ 1 ≤ k ∧ k ≤ w.maxId) :
    firstMisplaced? side w.starts = none ↔
      ∀ e ∈ es, ∀ f ∈ es, f.id = e.id + 1 → e.position.Before f.position := by
  have hkeys := hn.keys_eq hnum
  rw [firstMisplaced?, List.findSome?_eq_none_iff]
  constructor
  · intro h e he f hf hnext
    obtain ⟨c, hc, hcpos⟩ := hn.exists_start he
    obtain ⟨d, hd, hdpos⟩ := hn.exists_start hf
    have hnone := h _ ((Table.mem_zip_tail_iff hkeys).mpr ⟨hc, hd, hnext⟩)
    rw [misplaced?_eq_none_iff (hcpos ▸ (hsound e he).within) (hdpos ▸ (hsound f hf).within)] at hnone
    rwa [← hcpos, ← hdpos]
  · rintro h ⟨a, b⟩ hab
    obtain ⟨ha, hb, hnext⟩ := (Table.mem_zip_tail_iff hkeys).mp hab
    obtain ⟨e, he, heid, hepos⟩ := hn.exists_entry ha
    obtain ⟨f, hf, hfid, hfpos⟩ := hn.exists_entry hb
    rw [misplaced?_eq_none_iff (hepos ▸ (hsound e he).within) (hfpos ▸ (hsound f hf).within),
      ← hepos, ← hfpos]
    exact h e he f hf (by rw [heid, hfid, hnext])

theorem numberingErrors_eq_nil_iff (hn : w.Notes es) (hsound : ∀ e ∈ es, e.Sound side) :
    numberingErrors side w = [] ↔
      (∀ k, k ∈ es.map Entry.id ↔ 1 ≤ k ∧ k ≤ w.maxId) ∧
      ∀ e ∈ es, ∀ f ∈ es, f.id = e.id + 1 → e.position.Before f.position := by
  rw [← missingIds_iff_numbered hn hsound]
  by_cases hmissing : missingIds w = []
  · have hnum := (missingIds_iff_numbered hn hsound).mp hmissing
    rw [← firstMisplaced?_eq_none_iff hn hsound hnum, numberingErrors, hmissing]
    simp
  · refine iff_of_false ?_ fun h => hmissing h.1
    rw [numberingErrors]
    split
    · next h => exact absurd h hmissing
    · rwa [List.map_eq_nil_iff]

end Numbering

theorem Entry.visible_of_plain {e : Entry} (h : Plain e.letters) : e.Visible := by
  rintro l hl rfl
  exact absurd (h blankCell hl) (by decide)

namespace Puzzle

variable {p : Puzzle}

theorem Legible.plain (h : p.Legible) {d : Direction} {c : Clue} (hc : c ∈ p.clues.get d) :
    Plain (Entry.mk d c).letters := plain_lettersOf (h.writable d c hc).answer

theorem Legible.visible (h : p.Legible) {d : Direction} {c : Clue} (hc : c ∈ p.clues.get d) :
    (Entry.mk d c).Visible := Entry.visible_of_plain (h.plain hc)

theorem Legible.visible_entries (h : p.Legible) : ∀ e ∈ p.entries, e.Visible :=
  fun _ he => h.visible (mem_entries.mp he)

theorem entries_eq (p : Puzzle) :
    p.entries = p.clues.across.map (Entry.mk .across) ++ p.clues.down.map (Entry.mk .down) := by
  simp [entries, Direction.all, Both.get]

theorem maxId_le_iff (k : Nat) : p.maxId ≤ k ↔ ∀ e ∈ p.entries, e.id ≤ k := by
  rw [maxId, ids]
  induction p.entries with
  | nil => simp
  | cons e es ih => rw [List.map_cons, List.foldr_cons, Nat.max_le, ih, List.forall_mem_cons]

-- Both directions are let in, one behind the other.
structure Admitted (p : Puzzle) : Prop where
  across : AdmitsAll p.dimensions.side [] 0 .across p.clues.across
  down : AdmitsAll p.dimensions.side (p.clues.across.map (Entry.mk .across)) 0 .down p.clues.down

theorem Admitted.sound (h : p.Admitted) : ∀ e ∈ p.entries, e.Sound p.dimensions.side := by
  rw [entries_eq, List.forall_mem_append, List.forall_mem_map, List.forall_mem_map]
  exact ⟨h.across.sound, h.down.sound⟩

theorem Admitted.agree (h : p.Admitted) : ∀ e ∈ p.entries, ∀ f ∈ p.entries, e.Agree f := by
  rw [entries_eq]
  intro e he f hf
  rcases List.mem_append.mp hf with hf | hf
  · rcases List.mem_append.mp he with he | he
    · exact h.across.agree e he f hf
    · exact (h.down.agree f (List.mem_append_left _ hf) e he).symm
  · exact h.down.agree e he f hf

theorem Admitted.increasing (h : p.Admitted) (d : Direction) :
    ((p.clues.get d).map (·.id)).Pairwise (· < ·) := by
  cases d with
  | across => exact (List.pairwise_cons.mp h.across.increasing).2
  | down => exact (List.pairwise_cons.mp h.down.increasing).2

theorem admitsAll_zero {side : Nat} {done : List Entry} {d : Direction} {clues : List Clue}
    (hsound : ∀ c ∈ clues, (Entry.mk d c).Sound side)
    (hinc : (clues.map (·.id)).Pairwise (· < ·))
    (hagree : ∀ f ∈ done ++ clues.map (Entry.mk d), ∀ e ∈ clues.map (Entry.mk d), f.Agree e) :
    AdmitsAll side done 0 d clues := by
  refine ⟨hsound, List.pairwise_cons.mpr ⟨?_, hinc⟩, hagree⟩
  intro k hk
  obtain ⟨c, hc, rfl⟩ := List.mem_map.mp hk
  exact (hsound c hc).id_pos

theorem Lawful.admitted (h : p.Lawful) : p.Admitted := by
  obtain ⟨-, hinc, hsound, hagree, -, -⟩ := h
  rw [entries_eq] at hsound hagree
  rw [List.forall_mem_append, List.forall_mem_map, List.forall_mem_map] at hsound
  constructor
  · exact admitsAll_zero hsound.1 (hinc .across) fun f hf e he =>
      hagree f (List.mem_append_left _ hf) e (List.mem_append_left _ he)
  · exact admitsAll_zero hsound.2 (hinc .down) fun f hf e he =>
      hagree f hf e (List.mem_append_right _ he)

-- The walk that has gone through both directions.
def walked (p : Puzzle) : List Clue × List Clue × Walk × List Error :=
  let across := walkClues p.dimensions.side .across (Walk.start p.dimensions.side) 0 p.clues.across
  let down := walkClues p.dimensions.side .down across.2.1 0 p.clues.down
  (across.1, down.1, down.2.1, across.2.2 ++ down.2.2)

theorem side_lt_longestWord (d : Dimensions) : d.side < longestWord := by cases d <;> decide

theorem walked_spec (hvisible : ∀ e ∈ p.entries, e.Visible) :
    (p.walked.2.2.2 = [] ↔ p.Admitted) ∧
      (p.Admitted →
        p.walked.1 = p.clues.across.map Clue.settled ∧
        p.walked.2.1 = p.clues.down.map Clue.settled ∧
        p.walked.2.2.1.Records p.dimensions.side p.entries) := by
  have hside := side_lt_longestWord p.dimensions
  replace hvisible (d : Direction) : ∀ c ∈ p.clues.get d, (Entry.mk d c).Visible :=
    fun c hc => hvisible ⟨d, c⟩ (mem_entries.mpr hc)
  obtain ⟨herr, hacross⟩ := @walkClues_spec _ hside .across p.clues.across _ _ 0
    (Walk.records_start _) (by simp) (by simp) (hvisible .across)
  have hvisible' : ∀ f ∈ p.clues.across.map (Entry.mk .across), f.Visible :=
    List.forall_mem_map.mpr (hvisible .across)
  by_cases hadm : AdmitsAll p.dimensions.side [] 0 .across p.clues.across
  · obtain ⟨hclues, hrec⟩ := hacross hadm
    obtain ⟨herr', hdown⟩ := @walkClues_spec _ hside .down p.clues.down _ _ 0 hrec hvisible'
      (List.forall_mem_map.mpr hadm.sound) (hvisible .down)
    refine ⟨?_, fun hp => ?_⟩
    · rw [walked, List.append_eq_nil_iff, herr, herr']
      exact ⟨fun h' => ⟨h'.1, h'.2⟩, fun h' => ⟨h'.1, h'.2⟩⟩
    · obtain ⟨hclues', hrec'⟩ := hdown hp.down
      exact ⟨hclues, hclues', by rw [entries_eq]; exact hrec'⟩
  · refine ⟨?_, fun hp => absurd hp.across hadm⟩
    rw [walked, List.append_eq_nil_iff, herr]
    exact iff_of_false (fun h' => hadm h'.1) fun h' => hadm h'.across

theorem validate_eq (hp : p.errors = []) : p.validate =
    { p with
      clues := ⟨p.walked.1, p.walked.2.1⟩
      errors :=
        if p.entries.isEmpty then [.noClues] ++ p.walked.2.2.2
        else if p.walked.2.2.2.isEmpty then numberingErrors p.dimensions.side p.walked.2.2.1
        else p.walked.2.2.2
      side := some p.dimensions.side
      grid := some p.walked.2.2.1.grid
      starts := p.walked.2.2.1.starts
      answers := some p.walked.2.2.1.answers } := by
  have hempty : p.entries.isEmpty = (p.clues.across.isEmpty && p.clues.down.isEmpty) := by
    rw [entries_eq, Bool.eq_iff_iff]
    simp
  rw [validate, hp, hempty]
  by_cases hnone : (p.clues.across.isEmpty && p.clues.down.isEmpty) = true
  · simp [hnone, walked]
  · simp [hnone, walked]

theorem Admitted.lawful_iff (h : p.Admitted) : p.Lawful ↔
    p.entries ≠ [] ∧ (∀ k, k ∈ p.entries.map Entry.id ↔ 1 ≤ k ∧ k ≤ p.maxId) ∧
      ∀ e ∈ p.entries, ∀ f ∈ p.entries, f.id = e.id + 1 → e.position.Before f.position :=
  ⟨fun hl => ⟨hl.clued, hl.numbered, hl.ordered⟩,
    fun hl => ⟨hl.1, h.increasing, h.sound, h.agree, hl.2.1, hl.2.2⟩⟩

theorem validate_valid_iff (hvisible : ∀ e ∈ p.entries, e.Visible) (hp : p.errors = []) :
    p.validate.Valid ↔ p.Lawful := by
  obtain ⟨herr, hrec⟩ := walked_spec hvisible
  rw [Valid, validate_eq hp]
  dsimp only
  by_cases hadm : p.Admitted
  · obtain ⟨-, -, hr⟩ := hrec hadm
    have hmax : p.walked.2.2.1.maxId = p.maxId :=
      Nat.le_antisymm ((hr.maxId _).mpr ((maxId_le_iff _).mp (Nat.le_refl _)))
        ((maxId_le_iff _).mpr ((hr.maxId _).mp (Nat.le_refl _)))
    rw [hadm.lawful_iff, herr.mpr hadm, ← hmax, ← numberingErrors_eq_nil_iff hr.notes hadm.sound]
    by_cases hnone : p.entries = []
    · simp [hnone]
    · simp [hnone]
  · refine iff_of_false ?_ fun hl => hadm hl.admitted
    have herrors : p.walked.2.2.2 ≠ [] := fun h' => hadm (herr.mp h')
    by_cases hnone : p.entries = []
    · simp [hnone]
    · simp [hnone, herrors]

theorem Legible.validate_valid_iff (h : p.Legible) (hp : p.errors = []) : p.validate.Valid ↔ p.Lawful :=
  Puzzle.validate_valid_iff h.visible_entries hp

-- Checking accepts exactly what follows the rule.
theorem validate_valid_iff_lawful (text : String) (h : (read text).errors = []) :
    (read text).validate.Valid ↔ (read text).Lawful :=
  (legible_read text).validate_valid_iff h

-- Two words that cross in one letter follow the rule, and break it when the letter differs.
theorem lawful_crossing :
    ((read "Across\n- (1,1) 1. Pet (CAT)\nDown\n- (1,1) 1. Fish (COD)").errors = [] ∧
      (read "Across\n- (1,1) 1. Pet (CAT)\nDown\n- (1,1) 1. Fish (COD)").Lawful) ∧
    (read "Across\n- (1,1) 1. Pet (CAT)\nDown\n- (1,1) 1. Insect (ANT)").errors = [] ∧
      ¬ (read "Across\n- (1,1) 1. Pet (CAT)\nDown\n- (1,1) 1. Insect (ANT)").Lawful :=
  ⟨⟨by decide, (validate_valid_iff_lawful _ (by decide)).mp (by decide)⟩,
    by decide,
    fun hl => absurd ((validate_valid_iff_lawful _ (by decide)).mpr hl) (by decide)⟩

end Puzzle

end Cruciverb
