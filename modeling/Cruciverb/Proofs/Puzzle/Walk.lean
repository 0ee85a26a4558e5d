import Cruciverb.Proofs.Puzzle.Check
import Cruciverb.Proofs.Puzzle.Writing

namespace Cruciverb

open Cruciverb.Answer

-- A clue with all that checking finds out about it.
def Clue.settled (clue : Clue) : Clue :=
  let unpacked := unpack clue.answer.toList
  { clue with
    answer := String.ofList unpacked.answer
    numeric := some (String.ofList unpacked.numeric)
    letters := some (String.ofList unpacked.letters)
    wordLengths := unpacked.wordLengths }

-- No letter of the answer looks like a cell that is still free.
def Entry.Visible (e : Entry) : Prop := ∀ l ∈ e.letters, l ≠ blankCell

-- What is known of the ids: where each of them starts, and how far they go.
structure Walk.Notes (done : List Entry) (w : Walk) : Prop where
  starts : ∀ k pos, (w.starts.get? k).map (·.position) = some pos ↔
    ∃ e ∈ done, e.id = k ∧ e.position = pos
  maxId : ∀ k, w.maxId ≤ k ↔ ∀ e ∈ done, e.id ≤ k

structure Walk.Records (side : Nat) (done : List Entry) (w : Walk) : Prop where
  shows : Shows side done w.grid
  starts : ∀ k pos, (w.starts.get? k).map (·.position) = some pos ↔
    ∃ e ∈ done, e.id = k ∧ e.position = pos
  answers : ∀ d, w.answers.get d =
    (done.filter (·.direction = d)).map fun e => String.ofList e.letters
  maxId : ∀ k, w.maxId ≤ k ↔ ∀ e ∈ done, e.id ≤ k

theorem Walk.records_start (side : Nat) : (Walk.start side).Records side [] where
  shows := Shows.nil side
  starts := by simp [Walk.start]
  answers d := by cases d <;> rfl
  maxId := by simp [Walk.start]

theorem Walk.Records.notes {side : Nat} {done : List Entry} {w : Walk} (h : w.Records side done) :
    w.Notes done := ⟨h.starts, h.maxId⟩

theorem Walk.Notes.position_eq {es : List Entry} {w : Walk} (h : w.Notes es) {e f : Entry}
    (he : e ∈ es) (hf : f ∈ es) (hid : e.id = f.id) : e.position = f.position := by
  have hepos := (h.starts e.id e.position).mpr ⟨e, he, rfl, rfl⟩
  have hfpos := (h.starts f.id f.position).mpr ⟨f, hf, rfl, rfl⟩
  rw [hid, hfpos] at hepos
  exact (Option.some.inj hepos).symm

theorem Walk.Notes.noted {done : List Entry} {w : Walk} {clue : Clue} {starts : Table Clue}
    (h : w.Notes done) (hnoted : Noted clue w.starts starts) (d : Direction) :
    ({ w with maxId := max w.maxId clue.id, starts } : Walk).Notes (done ++ [⟨d, clue⟩]) := by
  have hmem (k : Nat) (pos : Coord) : (∃ e ∈ done ++ [Entry.mk d clue], e.id = k ∧ e.position = pos) ↔
      (∃ e ∈ done, e.id = k ∧ e.position = pos) ∨ clue.id = k ∧ clue.position = pos := by
    simp only [List.mem_append, List.mem_singleton, or_and_right, exists_or, exists_eq_left]
    rfl
  constructor
  · intro k pos
    rw [hmem, ← h.starts]
    cases hnoted with
    | first hnone =>
      rw [Table.get?_insert]
      by_cases hk : clue.id = k
      · subst hk
        simp [hnone]
      · simp [hk]
    | again hother hposition =>
      refine ⟨.inl, ?_⟩
      rintro (hpos | ⟨rfl, rfl⟩)
      · exact hpos
      · rw [hother, Option.map_some, hposition]
  · intro k
    show max w.maxId clue.id ≤ k ↔ _
    rw [Nat.max_le, h.maxId, List.forall_mem_append, List.forall_mem_singleton]
    rfl

-- What a clue has to be, given those before it and the last id of its own direction.
structure Admits (side : Nat) (done : List Entry) (last : Nat) (e : Entry) : Prop where
  sound : e.Sound side
  last_lt : last < e.id
  agree : ∀ f ∈ done, f.Agree e

theorem Entry.Sound.length_lt {side : Nat} {e : Entry} (h : e.Sound side)
    (hside : side < longestWord) : e.letters.length < longestWord :=
  Nat.lt_of_le_of_lt h.fits.1 hside

theorem Entry.Sound.unpack_words {side : Nat} {e : Entry} (h : e.Sound side)
    (hside : side < longestWord) :
    (unpack e.clue.answer.toList).words = wordsOf e.clue.answer.toList :=
  unpack_words_eq (.inr (h.length_lt hside))

theorem Entry.Sound.unpack_letters {side : Nat} {e : Entry} (h : e.Sound side)
    (hside : side < longestWord) : (unpack e.clue.answer.toList).letters = e.letters := by
  rw [Unpacked.letters, h.unpack_words hside]
  rfl

section Place

variable {side last : Nat} {d : Direction} {w : Walk} {clue : Clue}

-- Only a clue that is in order on its own gets as far as the grid without a complaint.
theorem sound_of_placeAnswer (hside : side < longestWord) (hid : 0 < clue.id)
    (hwithin : clue.position.Within side) (h : (placeAnswer side d w last clue).problems = []) :
    (Entry.mk d clue).Sound side := by
  rw [placeAnswer] at h
  dsimp only at h
  split at h
  · simp at h
  · next hlong =>
    have hletters : (unpack clue.answer.toList).letters = (Entry.mk d clue).letters := by
      rw [Unpacked.letters, unpack_words_eq (.inl (by omega))]
      rfl
    split at h
    · simp at h
    · next hfits =>
      simp only [List.append_eq_nil_iff, List.map_eq_nil_iff] at h
      rw [hletters] at hlong hfits
      refine ⟨hid, hwithin, (unpack_flaws_eq_nil_iff _).mp h.1, by omega, ?_⟩
      show clue.position.along d + (Entry.mk d clue).letters.length - 1 ≤ side
      omega

theorem placeAnswer_of_sound (hside : side < longestWord) (hs : (Entry.mk d clue).Sound side) :
    placeAnswer side d w last clue =
      { clue := clue.settled
        walk := { w with
          grid := ((Entry.mk d clue).write side w.grid).1
          answers := w.answers.modify d (· ++ [String.ofList (Entry.mk d clue).letters]) }
        last := clue.id
        problems := ((Entry.mk d clue).write side w.grid).2.toList.map Problem.letterClash } := by
  have hletters : (unpack clue.answer.toList).letters = (Entry.mk d clue).letters :=
    hs.unpack_letters hside
  have hlong := hs.fits.1
  have hfits : clue.position.along d + (Entry.mk d clue).letters.length - 1 ≤ side := hs.fits.2
  rw [placeAnswer]
  dsimp only
  rw [if_neg (by rw [hletters]; omega), if_neg (by rw [hletters]; omega),
    (unpack_flaws_eq_nil_iff _).mpr hs.words, Clue.settled, hletters]
  rfl

end Place

section Check

variable {side last : Nat} {d : Direction} {w : Walk} {clue : Clue} {done : List Entry}

-- A clue that is in its place among the ids and on the grid, and starts where the others with its
-- id do, is noted before its answer is looked at.
theorem checkClue_of_numbered (hn : w.Notes done) (hid : 0 < clue.id)
    (hlast : last < clue.id) (hwithin : clue.position.Within side)
    (hshared : ∀ f ∈ done, f.id = clue.id → f.position = clue.position) :
    ∃ starts, Noted clue w.starts starts ∧ checkClue side d w last clue =
      placeAnswer side d { w with maxId := max w.maxId clue.id, starts } last clue := by
  rw [checkClue, if_neg (by omega)]
  dsimp only
  rw [if_neg (by omega), (positionProblem?_eq_none_iff side clue.position).mpr hwithin]
  dsimp only
  cases hget : w.starts.get? clue.id with
  | none => exact ⟨_, .first hget, rfl⟩
  | some other =>
    have hsame : other.position = clue.position := by
      obtain ⟨f, hf, hfid, hfpos⟩ := (hn.starts clue.id other.position).mp (by rw [hget]; rfl)
      rw [← hfpos]
      exact hshared f hf hfid
    exact ⟨_, .again hget hsame, if_pos hsame⟩

theorem numbered_of_checkClue (hn : w.Notes done)
    (h : (checkClue side d w last clue).problems = []) :
    0 < clue.id ∧ last < clue.id ∧ clue.position.Within side ∧
      ∀ f ∈ done, f.id = clue.id → f.position = clue.position := by
  rcases checkClue_cases side d w last clue with
    ⟨maxId, problem, -, heq⟩ | ⟨hid, hlast, hwithin, starts, hnoted, -⟩
  · rw [heq] at h
    cases h
  · exact ⟨hid, hlast, hwithin, fun f hf => (hn.noted hnoted d).position_eq
      (List.mem_append_left _ hf) (List.mem_append_right _ (List.mem_singleton_self _))⟩

theorem checkClue_problems_iff (hr : w.Records side done) (hside : side < longestWord)
    (hdone : ∀ f ∈ done, f.Visible) :
    (checkClue side d w last clue).problems = [] ↔ Admits side done last ⟨d, clue⟩ := by
  constructor
  · intro h
    obtain ⟨hid, hlast, hwithin, hshared⟩ := numbered_of_checkClue hr.notes h
    obtain ⟨starts, -, hcheck⟩ := checkClue_of_numbered hr.notes hid hlast hwithin hshared
    rw [hcheck] at h
    have hs := sound_of_placeAnswer hside hid hwithin h
    rw [placeAnswer_of_sound hside hs] at h
    have hclash : ((Entry.mk d clue).write side w.grid).2 = none := by simpa using h
    have hletter := (hs.write_clash_iff hr.shows hdone).mp hclash
    exact ⟨hs, hlast, fun f hf => ⟨hshared f hf, hletter f hf⟩⟩
  · rintro ⟨hs, hlast, hagree⟩
    have hshared : ∀ f ∈ done, f.id = clue.id → f.position = clue.position :=
      fun f hf => (hagree f hf).position
    obtain ⟨starts, -, hcheck⟩ := checkClue_of_numbered hr.notes hs.id_pos hlast hs.within hshared
    have hclash := (hs.write_clash_iff hr.shows hdone).mpr fun f hf => (hagree f hf).letter
    rw [hcheck, placeAnswer_of_sound hside hs, hclash]
    rfl

-- One step: the record grows by the clue that was let in.
theorem checkClue_of_admits (hr : w.Records side done) (hside : side < longestWord)
    (hdone : ∀ f ∈ done, f.Visible) (hsound : ∀ f ∈ done, f.Sound side)
    (h : Admits side done last ⟨d, clue⟩) :
    ∃ w', checkClue side d w last clue = ⟨clue.settled, w', clue.id, []⟩ ∧
      w'.Records side (done ++ [⟨d, clue⟩]) := by
  obtain ⟨hs, hlast, hagree⟩ := h
  have hshared : ∀ f ∈ done, f.id = clue.id → f.position = clue.position :=
    fun f hf => (hagree f hf).position
  have hletter := fun f hf => (hagree f hf).letter
  obtain ⟨starts, hnoted, hcheck⟩ := checkClue_of_numbered hr.notes hs.id_pos hlast hs.within hshared
  have hclash := (hs.write_clash_iff hr.shows hdone).mpr hletter
  rw [hcheck, placeAnswer_of_sound hside hs]
  dsimp only
  rw [hclash]
  have hnotes := hr.notes.noted hnoted d
  refine ⟨_, rfl, hs.shows_write hr.shows hsound hclash hletter, hnotes.starts, ?_, hnotes.maxId⟩
  intro e
  rw [Both.get_modify, hr.answers, List.filter_append, List.map_append]
  by_cases he : d = e
  · simp [he]
  · simp [he]

end Check

-- What the clues of one direction have to be, given all those before them. No clue is compared
-- twice by the walk, but agreement is symmetric and every clue agrees with itself.
structure AdmitsAll (side : Nat) (done : List Entry) (last : Nat) (d : Direction)
    (clues : List Clue) : Prop where
  sound : ∀ c ∈ clues, (Entry.mk d c).Sound side
  increasing : (last :: clues.map (·.id)).Pairwise (· < ·)
  agree : ∀ f ∈ done ++ clues.map (Entry.mk d), ∀ e ∈ clues.map (Entry.mk d), f.Agree e

theorem admitsAll_nil (side : Nat) (done : List Entry) (last : Nat) (d : Direction) :
    AdmitsAll side done last d [] :=
  ⟨by simp, by simp, by simp⟩

theorem admitsAll_cons_iff {side : Nat} {done : List Entry} {last : Nat} {d : Direction} {clue : Clue}
    {clues : List Clue} :
    AdmitsAll side done last d (clue :: clues) ↔
      Admits side done last ⟨d, clue⟩ ∧ AdmitsAll side (done ++ [⟨d, clue⟩]) clue.id d clues := by
  constructor
  · rintro ⟨hsound, hinc, hagree⟩
    simp only [List.map_cons, List.pairwise_cons, List.mem_cons, forall_eq_or_imp] at hinc hsound
    refine ⟨⟨hsound.1, hinc.1.1, fun f hf => ?_⟩, hsound.2, ?_, ?_⟩
    · exact hagree f (by simp [hf]) _ (by simp)
    · exact List.pairwise_cons.mpr hinc.2
    · intro f hf e he
      exact hagree f (by simpa using hf) e (List.mem_cons_of_mem _ he)
  · rintro ⟨⟨hs, hlast, hfirst⟩, hsound, hinc, hagree⟩
    rw [List.pairwise_cons] at hinc
    refine ⟨?_, ?_, ?_⟩
    · simpa using ⟨hs, hsound⟩
    · simp only [List.map_cons, List.pairwise_cons, List.mem_cons, forall_eq_or_imp]
      exact ⟨⟨hlast, fun k hk => Nat.lt_trans hlast (hinc.1 k hk)⟩, hinc⟩
    · intro f hf e he
      rw [List.map_cons, List.mem_cons] at he
      rcases he with rfl | he
      · simp only [List.map_cons, List.mem_append, List.mem_cons] at hf
        rcases hf with hf | rfl | hf
        · exact hfirst f hf
        · exact Entry.agree_self _
        · exact (hagree _ (by simp) f hf).symm
      · exact hagree f (by simpa using hf) e he

-- The run: a direction is walked without an error exactly if all of its clues are let in.
theorem walkClues_spec {side : Nat} (hside : side < longestWord) {d : Direction} {clues : List Clue}
    {done : List Entry} {w : Walk} {last : Nat} (hr : w.Records side done)
    (hdone : ∀ f ∈ done, f.Visible) (hsound : ∀ f ∈ done, f.Sound side)
    (hclues : ∀ c ∈ clues, (Entry.mk d c).Visible) :
    ((walkClues side d w last clues).2.2 = [] ↔ AdmitsAll side done last d clues) ∧
      (AdmitsAll side done last d clues →
        (walkClues side d w last clues).1 = clues.map Clue.settled ∧
        (walkClues side d w last clues).2.1.Records side (done ++ clues.map (Entry.mk d))) := by
  induction clues generalizing done w last with
  | nil => simpa [walkClues, admitsAll_nil] using hr
  | cons clue clues ih =>
    simp only [walkClues, List.append_eq_nil_iff, List.map_eq_nil_iff, admitsAll_cons_iff]
    rw [checkClue_problems_iff hr hside hdone]
    by_cases h : Admits side done last ⟨d, clue⟩
    · obtain ⟨w', hcheck, hr'⟩ := checkClue_of_admits hr hside hdone hsound h
      have hdone' : ∀ f ∈ done ++ [Entry.mk d clue], f.Visible :=
        List.forall_mem_append.mpr ⟨hdone, List.forall_mem_singleton.mpr (hclues clue (by simp))⟩
      have hsound' : ∀ f ∈ done ++ [Entry.mk d clue], f.Sound side :=
        List.forall_mem_append.mpr ⟨hsound, List.forall_mem_singleton.mpr h.sound⟩
      obtain ⟨herrors, hrun⟩ := @ih _ _ clue.id hr' hdone' hsound'
        fun c hc => hclues c (List.mem_cons_of_mem _ hc)
      rw [hcheck]
      refine ⟨by rw [herrors], fun hall => ?_⟩
      obtain ⟨hclues', hrec⟩ := hrun hall.2
      exact ⟨by simp [hclues'], by simpa using hrec⟩
    · exact ⟨iff_of_false (fun h' => h h'.1) (fun h' => h h'.1), fun h' => absurd h'.1 h⟩

end Cruciverb
