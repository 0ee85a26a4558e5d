import Cruciverb.Proofs.Puzzle.Outcome
import Cruciverb.Spec
import Mathlib.Data.List.Pairwise

namespace Cruciverb

theorem Coord.Before.trans {a b c : Coord} (hab : a.Before b) (hbc : b.Before c) : a.Before c := by
  simp only [Coord.Before] at *
  omega

-- Ids grow with the places of their clues, not only from one id to the next.
theorem Entry.before_of_lt {es : List Entry} {maxId : Nat}
    (hnumbered : ∀ k, k ∈ es.map Entry.id ↔ 1 ≤ k ∧ k ≤ maxId)
    (hordered : ∀ e ∈ es, ∀ f ∈ es, f.id = e.id + 1 → e.position.Before f.position) {e f : Entry}
    (he : e ∈ es) (hf : f ∈ es) (hlt : e.id < f.id) : e.position.Before f.position := by
  obtain ⟨n, hn⟩ : ∃ n, f.id = e.id + n + 1 := ⟨f.id - e.id - 1, by omega⟩
  induction n generalizing e with
  | zero => exact hordered e he f hf hn
  | succ n ih =>
    have hnext : e.id + 1 ∈ es.map Entry.id := by
      have hmax := ((hnumbered f.id).mp (List.mem_map_of_mem hf)).2
      exact (hnumbered _).mpr ⟨by omega, by omega⟩
    obtain ⟨g, hg, hid⟩ := List.mem_map.mp hnext
    exact (hordered e he g hg hid).trans (ih hg (by omega) (by omega))

namespace Puzzle

variable {p q : Puzzle}

theorem Lawful.before_of_lt (hl : p.Lawful) {e f : Entry} (he : e ∈ p.entries) (hf : f ∈ p.entries)
    (hlt : e.id < f.id) : e.position.Before f.position :=
  Entry.before_of_lt hl.numbered hl.ordered he hf hlt

theorem Lawful.id_eq_of_position_eq (hl : p.Lawful) {e f : Entry} (he : e ∈ p.entries)
    (hf : f ∈ p.entries) (hpos : e.position = f.position) : e.id = f.id := by
  rcases Nat.lt_trichotomy e.id f.id with hlt | heq | hgt
  · exact absurd (hpos ▸ hl.before_of_lt he hf hlt) (Coord.not_before_self _)
  · exact heq
  · exact absurd (hpos ▸ hl.before_of_lt hf he hgt) (Coord.not_before_self _)

theorem Outcome.exists_of_numberAt (hq : p.Outcome q) {c : Coord} (h : Spec.numberAt q.starts c ≠ 0) :
    ∃ e ∈ p.entries, e.id = Spec.numberAt q.starts c ∧ e.position = c := by
  rw [Spec.numberAt] at h ⊢
  cases hfind : q.starts.entries.reverse.find? fun e => e.2.position == c with
  | none =>
    rw [hfind] at h
    exact absurd rfl h
  | some e =>
    obtain ⟨k, clue⟩ := e
    have hpos : clue.position = c := by simpa using List.find?_some hfind
    have hmem := List.mem_reverse.mp (List.mem_of_find?_eq_some hfind)
    rw [Table.mem_entries_iff] at hmem
    exact (hq.starts k c).mp (by rw [hmem, Option.map_some, hpos])

theorem Outcome.numberAt_eq (hq : p.Outcome q) (hl : p.Lawful) {e : Entry} (he : e ∈ p.entries) :
    Spec.numberAt q.starts e.position = e.id := by
  obtain ⟨clue, hclue, hpos⟩ :=
    Option.map_eq_some_iff.mp ((hq.starts e.id e.position).mpr ⟨e, he, rfl, rfl⟩)
  have hne : Spec.numberAt q.starts e.position ≠ 0 := by
    rw [Spec.numberAt]
    cases hfind : q.starts.entries.reverse.find? fun f => f.2.position == e.position with
    | none =>
      have hmem := List.mem_reverse.mpr (Table.mem_entries_iff.mpr hclue)
      have := List.find?_eq_none.mp hfind _ hmem
      simp [hpos] at this
    | some f =>
      have hmem := List.mem_reverse.mp (List.mem_of_find?_eq_some hfind)
      obtain ⟨k, clue'⟩ := f
      rw [Table.mem_entries_iff] at hmem
      obtain ⟨g, hg, rfl, -⟩ := (hq.starts k clue'.position).mp (by rw [hmem]; rfl)
      have := (hl.sound g hg).id_pos
      simpa using Nat.ne_of_gt this
  obtain ⟨f, hf, hid, hfpos⟩ := hq.exists_of_numberAt hne
  rw [← hid]
  exact hl.id_eq_of_position_eq hf he hfpos

theorem Outcome.numberAt_eq_iff (hq : p.Outcome q) (hl : p.Lawful) {c : Coord} {k : Nat} (hk : 0 < k) :
    Spec.numberAt q.starts c = k ↔ ∃ e ∈ p.entries, e.id = k ∧ e.position = c := by
  constructor
  · rintro rfl
    exact hq.exists_of_numberAt (Nat.ne_of_gt hk)
  · rintro ⟨e, he, rfl, rfl⟩
    exact hq.numberAt_eq hl he

theorem Outcome.numberAt_lt (hq : p.Outcome q) (hl : p.Lawful) {b c : Coord} (hbc : b.Before c)
    (hb : Spec.numberAt q.starts b ≠ 0) (hc : Spec.numberAt q.starts c ≠ 0) :
    Spec.numberAt q.starts b < Spec.numberAt q.starts c := by
  obtain ⟨e, he, hid, rfl⟩ := hq.exists_of_numberAt hb
  obtain ⟨f, hf, hid', rfl⟩ := hq.exists_of_numberAt hc
  rw [← hid, ← hid']
  rcases Nat.lt_trichotomy e.id f.id with hlt | heq | hgt
  · exact hlt
  · rw [(hl.agree e he f hf).position heq] at hbc
    exact absurd hbc (Coord.not_before_self _)
  · exact absurd (hbc.trans (hl.before_of_lt hf he hgt)) (Coord.not_before_self _)

-- Both lists grow and have the same members.
theorem Outcome.filter_numberAt (hq : p.Outcome q) (hl : p.Lawful) :
    ((Coord.cells p.dimensions.side).map (Spec.numberAt q.starts)).filter (· ≠ 0) =
      List.range' 1 p.maxId := by
  have hgrows : (((Coord.cells p.dimensions.side).map (Spec.numberAt q.starts)).filter (· ≠ 0)).Pairwise
      (· < ·) := by
    rw [List.pairwise_filter, List.pairwise_map]
    exact (Coord.pairwise_cells _).imp fun hbc hb hc =>
      hq.numberAt_lt hl hbc (by simpa using hb) (by simpa using hc)
  refine hgrows.eq_of_mem_iff List.pairwise_lt_range' fun k => ?_
  have hids : k ∈ p.ids ↔ k ∈ List.range' 1 p.maxId := by
    rw [hl.numbered, List.mem_range'_1]
    omega
  simp only [List.mem_filter, List.mem_map, Coord.mem_cells, decide_eq_true_eq]
  rw [← hids, ids, List.mem_map]
  constructor
  · rintro ⟨⟨c, -, rfl⟩, hne⟩
    obtain ⟨e, he, hid, -⟩ := hq.exists_of_numberAt hne
    exact ⟨e, he, hid⟩
  · rintro ⟨e, he, rfl⟩
    have hsound := hl.sound e he
    exact ⟨⟨e.position, hsound.within, hq.numberAt_eq hl he⟩, Nat.ne_of_gt hsound.id_pos⟩

end Puzzle

end Cruciverb
