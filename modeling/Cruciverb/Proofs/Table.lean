import Cruciverb.Table
import Mathlib.Data.List.Induction
import Mathlib.Data.List.Sort

namespace Cruciverb.Table

variable {α β : Type} {t : Table α}

theorem mem_entries_iff {k : Nat} {v : α} : (k, v) ∈ t.entries ↔ t.get? k = some v := by
  obtain ⟨entries, hasc⟩ := t
  simp only [get?]
  induction entries with
  | nil => simp
  | cons head rest ih =>
    obtain ⟨j, w⟩ := head
    rw [List.pairwise_cons] at hasc
    rw [List.mem_cons, List.find?_cons]
    by_cases hj : j = k
    · subst hj
      have hrest : (j, v) ∉ rest := fun h => Nat.lt_irrefl j (hasc.1 _ h)
      simp [hrest, eq_comm]
    · have hne : (k, v) ≠ (j, w) := fun h => hj (congrArg Prod.fst h).symm
      have hkey : (j == k) = false := by simpa using hj
      simp only [hne, hkey, false_or]
      exact ih hasc.2

theorem ext_get? {s : Table α} (h : ∀ k, s.get? k = t.get? k) : s = t := by
  have hirrefl : Std.Irrefl fun a b : Nat × α => a.1 < b.1 := ⟨fun a => Nat.lt_irrefl a.1⟩
  have hasymm : Std.Antisymm fun a b : Nat × α => a.1 < b.1 :=
    ⟨fun a b hab hba => absurd hab (Nat.lt_asymm hba)⟩
  apply ext_entries
  apply s.ascending.eq_of_mem_iff t.ascending
  rintro ⟨k, v⟩
  rw [mem_entries_iff, mem_entries_iff, h]

@[simp] theorem get?_map (f : α → β) (t : Table α) (k : Nat) :
    (t.map f).get? k = (t.get? k).map f := by
  simp only [get?, map, List.find?_map, Option.map_map]
  rfl

-- Of the entries of one number the last counts.
theorem get?_ofList (entries : List (Nat × α)) (k : Nat) :
    (ofList entries).get? k = (entries.reverse.find? (·.1 == k)).map (·.2) := by
  induction entries using List.reverseRecOn with
  | nil => rfl
  | append_singleton entries e ih =>
    rw [ofList, List.foldl_append, ← ofList]
    show ((ofList entries).insert e.1 e.2).get? k = _
    rw [get?_insert, ih, List.reverse_append, List.reverse_singleton, List.singleton_append,
      List.find?_cons]
    by_cases hk : e.1 = k
    · simp [hk]
    · have hb : (e.1 == k) = false := by simpa using hk
      simp [hk, hb]

theorem get?_ofList_of_unique {entries : List (Nat × α)} {k : Nat} {v : α} (hmem : (k, v) ∈ entries)
    (hunique : ∀ w, (k, w) ∈ entries → w = v) : (ofList entries).get? k = some v := by
  rw [get?_ofList]
  cases hfind : entries.reverse.find? (·.1 == k) with
  | none =>
    have hnone := List.find?_eq_none.mp hfind (k, v) (List.mem_reverse.mpr hmem)
    simp at hnone
  | some e =>
    have hkey : e.1 = k := by simpa using List.find?_some hfind
    have he : e ∈ entries := List.mem_reverse.mp (List.mem_of_find?_eq_some hfind)
    obtain ⟨j, w⟩ := e
    obtain rfl : j = k := hkey
    rw [Option.map_some, hunique w he]

-- A number beyond all others comes last.
theorem entries_insert_of_lt {k : Nat} (h : ∀ e ∈ t.entries, e.1 < k) (v : α) :
    (t.insert k v).entries = t.entries ++ [(k, v)] := by
  show putEntry k v t.entries = _
  generalize t.entries = entries at h
  induction entries with
  | nil => rfl
  | cons e entries ih =>
    rw [List.forall_mem_cons] at h
    rw [putEntry, if_neg (Nat.lt_asymm h.1), if_neg (Nat.ne_of_gt h.1), ih h.2, List.cons_append]

theorem mem_keys_iff {k : Nat} : k ∈ t.keys ↔ (t.get? k).isSome := by
  rw [keys, List.mem_map, Option.isSome_iff_exists]
  constructor
  · rintro ⟨⟨j, v⟩, hmem, rfl⟩
    exact ⟨v, mem_entries_iff.mp hmem⟩
  · rintro ⟨v, hv⟩
    exact ⟨(k, v), mem_entries_iff.mpr hv, rfl⟩

theorem keys_eq_range' {n : Nat} (h : ∀ k, (t.get? k).isSome ↔ 1 ≤ k ∧ k ≤ n) :
    t.keys = List.range' 1 n := by
  have hkeys : t.keys.Pairwise (· < ·) := List.pairwise_map.mpr t.ascending
  apply hkeys.eq_of_mem_iff List.pairwise_lt_range'
  intro k
  rw [mem_keys_iff, h, List.mem_range'_1]
  omega

theorem mem_zip_tail_iff {n : Nat} (h : t.keys = List.range' 1 n) {a b : Nat × α} :
    (a, b) ∈ t.entries.zip t.entries.tail ↔ a ∈ t.entries ∧ b ∈ t.entries ∧ b.1 = a.1 + 1 := by
  -- the entry at a place has the number of the place
  have hkey (i : Nat) (e : Nat × α) (he : t.entries[i]? = some e) : e.1 = i + 1 := by
    have hmap : t.keys[i]? = some e.1 := by rw [keys, List.getElem?_map, he]; rfl
    rw [h, List.getElem?_eq_some_iff] at hmap
    obtain ⟨hi, hmap⟩ := hmap
    rw [List.getElem_range'] at hmap
    omega
  rw [List.mem_iff_getElem?]
  simp only [List.getElem?_zip_eq_some, List.getElem?_tail]
  constructor
  · rintro ⟨i, ha, hb⟩
    have h1 := hkey i a ha
    have h2 := hkey (i + 1) b hb
    exact ⟨List.mem_of_getElem? ha, List.mem_of_getElem? hb, by omega⟩
  · rintro ⟨ha, hb, hnext⟩
    obtain ⟨i, hi⟩ := List.mem_iff_getElem?.mp ha
    obtain ⟨j, hj⟩ := List.mem_iff_getElem?.mp hb
    have h1 := hkey i a hi
    have h2 := hkey j b hj
    obtain rfl : j = i + 1 := by omega
    exact ⟨i, hi, hj⟩

end Cruciverb.Table
