import Cruciverb.Proofs.Puzzle.Numbers
import Cruciverb.Proofs.Puzzle.Rejection
import Mathlib.Order.Bounds.Basic

namespace Cruciverb

open Cruciverb.Answer

section Notes

variable {side last : Nat} {d : Direction} {w : Walk} {clue : Clue} {clues : List Clue}
  {done : List Entry}

theorem Walk.notes_start (side : Nat) : (Walk.start side).Notes [] :=
  (Walk.records_start side).notes

-- One step: a clue that is in order by itself is noted, whatever the letters of the others are.
theorem notes_checkClue (hside : side < longestWord) (hn : w.Notes done)
    (h : (checkClue side d w last clue).problems = []) :
    (Entry.mk d clue).Sound side ∧
      (checkClue side d w last clue).walk.Notes (done ++ [⟨d, clue⟩]) := by
  rcases checkClue_cases side d w last clue with
    ⟨maxId, problem, -, heq⟩ | ⟨hid, -, hwithin, starts, hnoted, heq⟩
  · rw [heq] at h
    cases h
  · rw [heq] at h ⊢
    have hnotes := hn.noted hnoted d
    obtain ⟨-, hstarts, hmaxId⟩ := @placeAnswer_frame side last d
      { w with maxId := max w.maxId clue.id, starts } clue
    refine ⟨sound_of_placeAnswer hside hid hwithin h, ?_, ?_⟩
    · rw [hstarts]
      exact hnotes.starts
    · rw [hmaxId]
      exact hnotes.maxId

-- The run.
theorem notes_findings (hside : side < longestWord) (hn : w.Notes done)
    (h : ∀ finding ∈ (findings side d w last clues).1, finding.2 = []) :
    (∀ c ∈ clues, (Entry.mk d c).Sound side) ∧
      (findings side d w last clues).2.Notes (done ++ clues.map (Entry.mk d)) := by
  induction clues generalizing w last done with
  | nil => exact ⟨by simp, by simpa [findings] using hn⟩
  | cons clue rest ih =>
    rw [findings_of_step rfl] at h ⊢
    rw [List.forall_mem_cons] at h
    obtain ⟨hsound, hstep⟩ := notes_checkClue hside hn h.1
    obtain ⟨hsounds, hrun⟩ := ih hstep h.2
    exact ⟨List.forall_mem_cons.mpr ⟨hsound, hsounds⟩, by simpa using hrun⟩

end Notes

-- The first value that is found belongs to the least of the keys that have one.
theorem exists_least_of_findSome? {α β : Type} {l : List α} {f : α → Option β} {key : α → Nat}
    {b : β} (hl : (l.map key).Pairwise (· < ·)) (h : l.findSome? f = some b) :
    ∃ a ∈ l, f a = some b ∧ ∀ x ∈ l, key x < key a → f x = none := by
  obtain ⟨before, a, behind, rfl, ha, hnone⟩ := List.findSome?_eq_some_iff.mp h
  refine ⟨a, by simp, ha, fun x hx hlt => ?_⟩
  rw [List.map_append, List.map_cons, List.pairwise_append, List.pairwise_cons] at hl
  rcases List.mem_append.mp hx with hx | hx
  · exact hnone x hx
  rcases List.mem_cons.mp hx with rfl | hx
  · exact absurd hlt (Nat.lt_irrefl _)
  · exact absurd (hl.2.1.1 (key x) (List.mem_map_of_mem hx)) (Nat.lt_asymm hlt)

-- The report says where the second clue starts, seen from the first.
structure Tells (e f : Entry) (error : Puzzle.Error) : Prop where
  kind : error = .startsAbove f.id e.id ∨ error = .sameStart f.id e.id ∨
    error = .startsLeftOf f.id e.id
  above : error = .startsAbove f.id e.id ↔ f.position.y < e.position.y
  same : error = .sameStart f.id e.id ↔ f.position = e.position
  left : error = .startsLeftOf f.id e.id ↔
    f.position.y = e.position.y ∧ f.position.x < e.position.x

-- A sum of column and row would not do to compare two clues if a column could be beyond the grid.
theorem tells_of_misplaced? {side : Nat} {e f : Entry} {a b : Nat × Clue} {error : Puzzle.Error}
    (he : e.id = a.1 ∧ e.position = a.2.position) (hf : f.id = b.1 ∧ f.position = b.2.position)
    (hwithin : e.position.Within side ∧ f.position.Within side)
    (h : misplaced? side (a, b) = some error) : ¬ e.position.Before f.position ∧ Tells e f error := by
  have hbefore : ¬ e.position.Before f.position := by
    intro hbefore
    rw [he.2, hf.2] at hbefore hwithin
    rw [(misplaced?_eq_none_iff hwithin.1 hwithin.2).mpr hbefore] at h
    cases h
  refine ⟨hbefore, ?_⟩
  rw [Coord.Before] at hbefore
  unfold misplaced? at h
  dsimp only at h
  rw [← he.1, ← he.2, ← hf.1, ← hf.2] at h
  have hsame : f.position = e.position ↔ f.position.x = e.position.x ∧ f.position.y = e.position.y := by
    rw [Coord.mk.injEq]
  split at h
  · cases h
  split at h
  · next habove =>
    cases h
    refine ⟨.inl rfl, by simpa using habove, ?_, ?_⟩
    all_goals simp only [reduceCtorEq, false_iff, hsame]; omega
  split at h
  · next hposition =>
    cases h
    refine ⟨.inr (.inl rfl), ?_, by simpa using hposition, ?_⟩
    all_goals simp only [reduceCtorEq, false_iff, hposition]; omega
  · next habove hposition =>
    cases h
    rw [hsame] at hposition
    refine ⟨.inr (.inr rfl), ?_, ?_, ?_⟩
    · simpa using habove
    · simpa [hsame] using hposition
    · simp only [true_iff]
      omega

section Numbering

variable {side : Nat} {es : List Entry} {w : Walk}

theorem missingIds_eq (hn : w.Notes es) :
    missingIds w = (List.range' 1 w.maxId).filter (· ∉ es.map Entry.id) := by
  rw [missingIds]
  refine List.filter_congr fun k _ => ?_
  rw [Table.contains, Bool.eq_iff_iff, Bool.not_eq_true', ← Bool.not_eq_true, isSome_starts_iff hn,
    decide_eq_true_eq]

-- The neighbours in the table are looked at by ascending ids, so that the first report is of the least.
theorem tells_of_firstMisplaced? (hn : w.Notes es) (hsound : ∀ e ∈ es, e.Sound side)
    (hnum : ∀ k, k ∈ es.map Entry.id ↔ 1 ≤ k ∧ k ≤ w.maxId) {error : Puzzle.Error}
    (h : firstMisplaced? side w.starts = some error) :
    ∃ e ∈ es, ∃ f ∈ es, f.id = e.id + 1 ∧ ¬ e.position.Before f.position ∧ Tells e f error ∧
      ∀ e' ∈ es, ∀ f' ∈ es, f'.id = e'.id + 1 → f'.id < f.id → e'.position.Before f'.position := by
  have hkeys := hn.keys_eq hnum
  have hgrows : ((w.starts.entries.zip w.starts.entries.tail).map (·.2.1)).Pairwise (· < ·) := by
    have hsnd : (w.starts.entries.zip w.starts.entries.tail).map Prod.snd = w.starts.entries.tail :=
      List.map_snd_zip (by simp)
    rw [show (fun pair : (Nat × Clue) × (Nat × Clue) => pair.2.1) = Prod.fst ∘ Prod.snd from rfl,
      ← List.map_map, hsnd, List.pairwise_map]
    exact w.starts.ascending.tail
  obtain ⟨⟨a, b⟩, hab, hfound, hleast⟩ := exists_least_of_findSome? hgrows h
  obtain ⟨ha, hb, hnext⟩ := (Table.mem_zip_tail_iff hkeys).mp hab
  obtain ⟨e, he, heid, hepos⟩ := hn.exists_entry ha
  obtain ⟨f, hf, hfid, hfpos⟩ := hn.exists_entry hb
  obtain ⟨hbefore, htells⟩ := tells_of_misplaced? ⟨heid, hepos⟩ ⟨hfid, hfpos⟩
    ⟨(hsound e he).within, (hsound f hf).within⟩ hfound
  refine ⟨e, he, f, hf, by rw [heid, hfid, hnext], hbefore, htells, ?_⟩
  intro e' he' f' hf' hnext' hlt
  obtain ⟨c, hc, hcpos⟩ := hn.exists_start he'
  obtain ⟨d, hd, hdpos⟩ := hn.exists_start hf'
  have hnone := hleast _ ((Table.mem_zip_tail_iff hkeys).mpr ⟨hc, hd, hnext'⟩) (by rwa [hfid] at hlt)
  rw [misplaced?_eq_none_iff (hcpos ▸ (hsound e' he').within) (hdpos ▸ (hsound f' hf').within)] at hnone
  rwa [← hcpos, ← hdpos]

theorem numberingErrors_of_unused (hn : w.Notes es) {k : Nat} (hk : 1 ≤ k) (hle : k ≤ w.maxId)
    (hunused : k ∉ es.map Entry.id) : numberingErrors side w =
      ((List.range' 1 w.maxId).filter (· ∉ es.map Entry.id)).map .missingId := by
  have hmem : k ∈ missingIds w := by
    rw [missingIds_eq hn, List.mem_filter]
    exact ⟨List.mem_range'_1.mpr ⟨hk, by omega⟩, decide_eq_true hunused⟩
  rw [numberingErrors]
  split
  · next hnil => exact absurd hnil (List.ne_nil_of_mem hmem)
  · rw [missingIds_eq hn]

theorem numberingErrors_of_used (hn : w.Notes es) (hsound : ∀ e ∈ es, e.Sound side)
    (hused : ∀ k, 1 ≤ k → k ≤ w.maxId → k ∈ es.map Entry.id) :
    (numberingErrors side w = [] ↔
      ∀ e ∈ es, ∀ f ∈ es, e.id < f.id → e.position.Before f.position) ∧
    (numberingErrors side w ≠ [] →
      ∃ e ∈ es, ∃ f ∈ es, f.id = e.id + 1 ∧ ¬ e.position.Before f.position ∧
        (∀ e' ∈ es, ∀ f' ∈ es, f'.id = e'.id + 1 → f'.id < f.id → e'.position.Before f'.position) ∧
        ∃ error, numberingErrors side w = [error] ∧ Tells e f error) := by
  have hnil : missingIds w = [] := by
    rw [missingIds_eq hn, List.filter_eq_nil_iff]
    intro k hk
    rw [List.mem_range'_1] at hk
    simpa using hused k hk.1 (by omega)
  have hnum := (missingIds_iff_numbered hn hsound).mp hnil
  have herrors : numberingErrors side w = (firstMisplaced? side w.starts).toList := by
    rw [numberingErrors, hnil]
  rw [herrors]
  constructor
  · rw [Option.toList_eq_nil_iff, firstMisplaced?_eq_none_iff hn hsound hnum]
    exact ⟨fun h e he f hf => Entry.before_of_lt hnum h he hf,
      fun h e he f hf hnext => h e he f hf (by omega)⟩
  · intro hne
    obtain ⟨error, hfirst⟩ := Option.ne_none_iff_exists'.mp (mt Option.toList_eq_nil_iff.mpr hne)
    obtain ⟨e, he, f, hf, hnext, hbefore, htells, hleast⟩ :=
      tells_of_firstMisplaced? hn hsound hnum hfirst
    exact ⟨e, he, f, hf, hnext, hbefore, hleast, error, by rw [hfirst]; rfl, htells⟩

end Numbering

namespace Puzzle

variable {p : Puzzle}

-- The id does not start behind the one before it.
def Misplaced (p : Puzzle) (k : Nat) : Prop :=
  ∃ e ∈ p.entries, ∃ f ∈ p.entries, f.id = k ∧ k = e.id + 1 ∧ ¬ e.position.Before f.position

theorem walked_eq (p : Puzzle) : p.walked =
    (p.found.1.across.map Prod.fst, p.found.1.down.map Prod.fst, p.found.2,
      (p.reports.across ++ p.reports.down).flatten) := by
  rw [walked, walkClues_eq, walkClues_eq, reports, List.flatten_append]
  rfl

-- Where no clue is reported, the walk has noted all of them.
theorem notes_found (hp : p.errors = []) (hclues : ∀ e ∈ p.validate.errors, e.ofClue = false) :
    (p.reports.across ++ p.reports.down).flatten = [] ∧
      (∀ e ∈ p.entries, e.Sound p.dimensions.side) ∧ p.found.2.Notes p.entries := by
  have hreports : (p.reports.across ++ p.reports.down).flatten = [] := by
    obtain ⟨-, -, -, -, herrors⟩ := p.validate_found
    rw [hp, List.filter_nil, List.nil_append] at herrors
    rw [← herrors, List.filter_eq_nil_iff]
    intro e he
    rw [hclues e he]
    exact Bool.false_ne_true
  have hnone (d : Direction) : ∀ finding ∈ p.found.1.get d, finding.2 = [] := by
    intro finding hfinding
    rw [List.flatten_eq_nil_iff, List.forall_mem_append] at hreports
    have hmem : report d finding ∈ p.reports.get d := by
      rw [reports, Both.get_of]
      exact List.mem_map_of_mem hfinding
    have hnil : report d finding = [] := by
      cases d with
      | across => exact hreports.1 _ hmem
      | down => exact hreports.2 _ hmem
    exact List.map_eq_nil_iff.mp hnil
  have hside := side_lt_longestWord p.dimensions
  obtain ⟨hacross, hn⟩ := notes_findings hside (Walk.notes_start _) (hnone .across)
  obtain ⟨hdown, hn⟩ := notes_findings hside hn (hnone .down)
  rw [entries_eq]
  refine ⟨hreports, ?_, hn⟩
  rw [List.forall_mem_append, List.forall_mem_map, List.forall_mem_map]
  exact ⟨hacross, hdown⟩

-- If no clue is reported, the missing ids are; if there are none, the first id that is misplaced is.
theorem validate_numbering (hp : p.errors = []) (hclued : p.entries ≠ [])
    (hclues : ∀ e ∈ p.validate.errors, e.ofClue = false) :
    ((∃ k, 1 ≤ k ∧ k ≤ p.maxId ∧ k ∉ p.ids) →
      p.validate.errors = ((List.range' 1 p.maxId).filter (· ∉ p.ids)).map .missingId) ∧
    ((∀ k, 1 ≤ k → k ≤ p.maxId → k ∈ p.ids) →
      (p.validate.errors = [] ↔
        ∀ e ∈ p.entries, ∀ f ∈ p.entries, e.id < f.id → e.position.Before f.position) ∧
      (p.validate.errors ≠ [] → ∃ e ∈ p.entries, ∃ f ∈ p.entries, f.id = e.id + 1 ∧
        IsLeast {k | p.Misplaced k} f.id ∧
        ∃ error, p.validate.errors = [error] ∧ Tells e f error)) := by
  obtain ⟨hreports, hsound, hn⟩ := notes_found hp hclues
  have hmaxId : p.found.2.maxId = p.maxId :=
    Nat.le_antisymm ((hn.maxId _).mpr ((maxId_le_iff _).mp (Nat.le_refl _)))
      ((maxId_le_iff _).mpr ((hn.maxId _).mp (Nat.le_refl _)))
  have herrors : p.validate.errors = numberingErrors p.dimensions.side p.found.2 := by
    rw [validate_eq hp]
    dsimp only
    rw [walked_eq, hreports, if_neg (by simpa using hclued)]
    rfl
  rw [herrors, ← hmaxId]
  constructor
  · rintro ⟨k, hk, hle, hunused⟩
    exact numberingErrors_of_unused hn hk hle hunused
  · intro hused
    obtain ⟨hnil, hfirst⟩ := numberingErrors_of_used hn hsound hused
    refine ⟨hnil, fun hne => ?_⟩
    obtain ⟨e, he, f, hf, hnext, hbefore, hleast, herror⟩ := hfirst hne
    refine ⟨e, he, f, hf, hnext, ⟨⟨e, he, f, hf, rfl, hnext, hbefore⟩, ?_⟩, herror⟩
    rintro k ⟨e', he', f', hf', rfl, hnext', hbefore'⟩
    exact Nat.le_of_not_lt fun hlt => hbefore' (hleast e' he' f' hf' hnext' hlt)

-- Two ids are left out between the clues.
def gappedPuzzle : Puzzle := read "across:\n- (1,1) 1. Pet (CAT)\n- (1,5) 4. Pet (DOG)"

-- The second clue starts above the first, and the third to the left of the second.
def turnedPuzzle : Puzzle :=
  read "across:\n- (1,3) 1. Pet (CAT)\n- (9,1) 2. Pet (DOG)\n- (1,1) 3. Bird (OWL)"

theorem validate_numbering_turnedPuzzle :
    (gappedPuzzle.errors = [] ∧ gappedPuzzle.entries ≠ [] ∧
      gappedPuzzle.validate.errors = [.missingId 2, .missingId 3]) ∧
    turnedPuzzle.errors = [] ∧ turnedPuzzle.entries ≠ [] ∧
      turnedPuzzle.validate.errors = [.startsAbove 2 1] ∧
      ∃ e ∈ turnedPuzzle.entries, ∃ f ∈ turnedPuzzle.entries, f.id = e.id + 1 ∧
        IsLeast {k | turnedPuzzle.Misplaced k} f.id ∧
        ∃ error, turnedPuzzle.validate.errors = [error] ∧ Tells e f error := by
  have hgapped := (@validate_numbering gappedPuzzle (by decide) (by decide) (by decide)).1
    ⟨2, by decide, by decide, by decide⟩
  have hturned := (@validate_numbering turnedPuzzle (by decide) (by decide) (by decide)).2 (by decide)
  exact ⟨⟨by decide, by decide, hgapped.trans (by decide)⟩, by decide, by decide, by decide,
    hturned.2 (by decide)⟩

end Puzzle

end Cruciverb
