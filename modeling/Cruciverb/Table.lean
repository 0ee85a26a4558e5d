namespace Cruciverb

-- Puts an entry in its place; an earlier value of the same number gives way.
def putEntry {α : Type} (k : Nat) (v : α) : List (Nat × α) → List (Nat × α)
  | [] => [(k, v)]
  | (j, w) :: rest =>
    if k < j then (k, v) :: (j, w) :: rest
    else if k = j then (k, v) :: rest
    else (j, w) :: putEntry k v rest

theorem mem_putEntry {α : Type} {k : Nat} {v : α} {entries : List (Nat × α)} {e : Nat × α}
    (h : e ∈ putEntry k v entries) : e = (k, v) ∨ e ∈ entries := by
  induction entries with
  | nil => simp_all [putEntry]
  | cons head rest ih =>
    obtain ⟨j, w⟩ := head
    simp only [putEntry] at h
    split at h
    · simpa using h
    · split at h
      · simp only [List.mem_cons] at h ⊢
        rcases h with h | h
        · exact .inl h
        · exact .inr (.inr h)
      · simp only [List.mem_cons] at h ⊢
        rcases h with h | h
        · exact .inr (.inl h)
        · rcases ih h with h | h
          · exact .inl h
          · exact .inr (.inr h)

theorem ascending_putEntry {α : Type} (k : Nat) (v : α) {entries : List (Nat × α)}
    (h : entries.Pairwise (·.1 < ·.1)) : (putEntry k v entries).Pairwise (·.1 < ·.1) := by
  induction entries with
  | nil => simp [putEntry]
  | cons head rest ih =>
    obtain ⟨j, w⟩ := head
    rw [List.pairwise_cons] at h
    simp only [putEntry]
    split
    · next hlt =>
      refine List.pairwise_cons.mpr ⟨?_, List.pairwise_cons.mpr h⟩
      intro e he
      rcases List.mem_cons.mp he with rfl | he
      · exact hlt
      · exact Nat.lt_trans hlt (h.1 e he)
    · split
      · next heq =>
        subst heq
        exact List.pairwise_cons.mpr h
      · next hlt hne =>
        refine List.pairwise_cons.mpr ⟨?_, ih h.2⟩
        intro e he
        rcases mem_putEntry he with rfl | he
        · show j < k
          omega
        · exact h.1 e he

structure Table (α : Type) where
  entries : List (Nat × α)
  ascending : entries.Pairwise (·.1 < ·.1)

namespace Table

variable {α β : Type}

instance [DecidableEq α] : DecidableEq (Table α) := fun s t =>
  if h : s.entries = t.entries then .isTrue (by cases s; cases t; simp_all)
  else .isFalse (by rintro rfl; exact h rfl)

def empty : Table α := ⟨[], .nil⟩

instance : Inhabited (Table α) := ⟨empty⟩

def get? (t : Table α) (k : Nat) : Option α := (t.entries.find? (·.1 == k)).map (·.2)

def insert (t : Table α) (k : Nat) (v : α) : Table α :=
  ⟨putEntry k v t.entries, ascending_putEntry k v t.ascending⟩

-- Later entries win over earlier ones of the same number.
def ofList (entries : List (Nat × α)) : Table α :=
  entries.foldl (fun t e => t.insert e.1 e.2) empty

def keys (t : Table α) : List Nat := t.entries.map (·.1)

def contains (t : Table α) (k : Nat) : Bool := (t.get? k).isSome

def map (f : α → β) (t : Table α) : Table β where
  entries := t.entries.map fun e => (e.1, f e.2)
  ascending := by simpa [List.pairwise_map] using t.ascending

theorem ext_entries {s t : Table α} (h : s.entries = t.entries) : s = t := by
  cases s
  cases t
  simp_all

end Table

theorem find?_putEntry {α : Type} (k j : Nat) (v : α) (entries : List (Nat × α))
    (h : entries.Pairwise (·.1 < ·.1)) :
    ((putEntry k v entries).find? (·.1 == j)).map (·.2) =
      if k = j then some v else (entries.find? (·.1 == j)).map (·.2) := by
  induction entries with
  | nil => by_cases hkj : k = j <;> simp [putEntry, hkj]
  | cons head rest ih =>
    obtain ⟨i, w⟩ := head
    rw [List.pairwise_cons] at h
    simp only [putEntry]
    split
    · by_cases hkj : k = j
      · simp [hkj]
      · simp [hkj]
    · split
      · next heq =>
        subst heq
        by_cases hkj : k = j <;> simp [hkj]
      · next hlt hne =>
        by_cases hij : i = j
        · have hkj : ¬ k = j := by omega
          simp [hij, hkj]
        · have hb : (i == j) = false := by simp [hij]
          simp only [List.find?_cons, hb]
          exact ih h.2

namespace Table

variable {α : Type}

@[simp] theorem get?_empty (k : Nat) : (empty : Table α).get? k = none := rfl

@[simp] theorem get?_insert (t : Table α) (k j : Nat) (v : α) :
    (t.insert k v).get? j = if k = j then some v else t.get? j :=
  find?_putEntry k j v t.entries t.ascending

end Table

end Cruciverb
