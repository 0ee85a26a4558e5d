import Cruciverb.Import.LegacySpec
import Cruciverb.Proofs.Puzzle.Numbers

namespace Cruciverb

namespace Import

theorem arrayItems_ok {v : Json} {field : String} {items : List Json}
    (h : arrayItems v field = .ok items) : v = .array items := by
  cases v with
  | array found =>
    cases h
    rfl
  | _ => cases h

section Reading

-- The number in a cell, counted from 1 in both directions.
def gridNumber? (gridnums : Json) (c : Coord) : Option Nat :=
  gridnums.asArray?.bind fun rows => (rows[c.y - 1]?.bind Json.asArray?).bind fun cells =>
    cells[c.x - 1]?.bind Json.asNat?

-- What is counted from a place on, counted from the next place on.
theorem getElem?_cons_sub {α : Type} {a : α} {l : List α} {start n : Nat} (h : start < n) :
    (a :: l)[n - start]? = l[n - (start + 1)]? := by
  have hindex : n - start = n - (start + 1) + 1 := by omega
  rw [hindex, List.getElem?_cons_succ]

theorem rowNumbers_spec {y x : Nat} {cells : List Json} {found : List (Nat × Coord)}
    (h : rowNumbers y x cells = .ok found) :
    found.Pairwise (fun a b => a.2.Before b.2) ∧ ∀ k c, (k, c) ∈ found ↔
      k ≠ 0 ∧ c.y = y ∧ x ≤ c.x ∧ cells[c.x - x]?.bind Json.asNat? = some k := by
  induction cells generalizing x found with
  | nil =>
    cases h
    simp
  | cons cell rest ih =>
    rw [rowNumbers] at h
    split at h
    · cases h
    next id hid =>
    split at h
    · cases h
    next more hmore =>
    cases h
    obtain ⟨hsorted, hmem⟩ := ih hmore
    constructor
    · split
      · exact hsorted
      · refine List.pairwise_cons.mpr ⟨fun e he => ?_, hsorted⟩
        obtain ⟨-, hy, hx, -⟩ := (hmem e.1 e.2).mp he
        exact .inr ⟨hy.symm, hx⟩
    · intro k c
      have hhead : (k, c) ∈ (if id = 0 then more else (id, ⟨x, y⟩) :: more) ↔
          (k ≠ 0 ∧ k = id ∧ c = ⟨x, y⟩) ∨ (k, c) ∈ more := by
        split
        · next hzero =>
          exact ⟨.inr, fun hk => hk.elim (fun hk => absurd (hk.2.1.trans hzero) hk.1) fun hmore => hmore⟩
        · next hne =>
          rw [List.mem_cons, Prod.mk.injEq]
          exact or_congr_left ⟨fun hk => ⟨hk.1 ▸ hne, hk⟩, fun hk => hk.2⟩
      rw [hhead, hmem]
      constructor
      · rintro (⟨hk, rfl, rfl⟩ | ⟨hk, hy, hx, hcell⟩)
        · exact ⟨hk, rfl, Nat.le_refl x, by rw [Nat.sub_self]; exact hid⟩
        · exact ⟨hk, hy, by omega, by rwa [getElem?_cons_sub hx]⟩
      · rintro ⟨hk, hy, hx, hcell⟩
        by_cases hfirst : c.x = x
        · rw [hfirst, Nat.sub_self] at hcell
          obtain rfl : id = k := Option.some.inj (hid.symm.trans hcell)
          exact .inl ⟨hk, rfl, by rw [Coord.mk.injEq]; exact ⟨hfirst, hy⟩⟩
        · rw [getElem?_cons_sub (by omega)] at hcell
          exact .inr ⟨hk, hy, by omega, hcell⟩

theorem rowsNumbers_spec {y : Nat} {rows : List Json} {found : List (Nat × Coord)}
    (h : rowsNumbers y rows = .ok found) :
    found.Pairwise (fun a b => a.2.Before b.2) ∧ ∀ k c, (k, c) ∈ found ↔
      k ≠ 0 ∧ y ≤ c.y ∧ 1 ≤ c.x ∧ ((rows[c.y - y]?.bind Json.asArray?).bind fun cells =>
        cells[c.x - 1]?.bind Json.asNat?) = some k := by
  induction rows generalizing y found with
  | nil =>
    cases h
    simp
  | cons row rest ih =>
    rw [rowsNumbers] at h
    split at h
    · cases h
    next cells hcells =>
    split at h
    · cases h
    next inRow hrow =>
    split at h
    · cases h
    next more hmore =>
    cases h
    obtain rfl := arrayItems_ok hcells
    obtain ⟨hsorted, hmem⟩ := rowNumbers_spec hrow
    obtain ⟨hsorted', hmem'⟩ := ih hmore
    constructor
    · refine List.pairwise_append.mpr ⟨hsorted, hsorted', fun a ha b hb => ?_⟩
      obtain ⟨-, hy, -⟩ := (hmem a.1 a.2).mp ha
      obtain ⟨-, hy', -⟩ := (hmem' b.1 b.2).mp hb
      exact .inl (by omega)
    · intro k c
      rw [List.mem_append, hmem, hmem']
      constructor
      · rintro (⟨hk, rfl, hx, hcell⟩ | ⟨hk, hy, hx, hcell⟩)
        · refine ⟨hk, Nat.le_refl _, hx, ?_⟩
          rw [Nat.sub_self]
          exact hcell
        · exact ⟨hk, by omega, hx, by rwa [getElem?_cons_sub hy]⟩
      · rintro ⟨hk, hy, hx, hcell⟩
        by_cases hfirst : c.y = y
        · rw [hfirst, Nat.sub_self] at hcell
          exact .inl ⟨hk, hfirst, hx, hcell⟩
        · rw [getElem?_cons_sub (by omega)] at hcell
          exact .inr ⟨hk, by omega, hx, hcell⟩

-- Of the cells with the number, read row by row, the last one.
structure LastAt (gridnums : Json) (id : Nat) (c : Coord) : Prop where
  positive : 1 ≤ c.x ∧ 1 ≤ c.y
  number : gridNumber? gridnums c = some id
  last : ∀ b : Coord, 1 ≤ b.x → 1 ≤ b.y → gridNumber? gridnums b = some id → b = c ∨ b.Before c

theorem lastAt_of_get? {gridnums : Json} {places : Table Coord} {id : Nat} {c : Coord}
    (h : readGridnums gridnums = .ok places) (hget : places.get? id = some c) :
    LastAt gridnums id c := by
  rw [readGridnums] at h
  split at h
  · cases h
  next rows hrows =>
  obtain rfl := arrayItems_ok hrows
  cases hfound : rowsNumbers 1 rows with
  | error e =>
    rw [hfound] at h
    cases h
  | ok found =>
    rw [hfound] at h
    cases h
    obtain ⟨hsorted, hmem⟩ := rowsNumbers_spec hfound
    have hnumber (b : Coord) : gridNumber? (.array rows) b =
        (rows[b.y - 1]?.bind Json.asArray?).bind fun cells => cells[b.x - 1]?.bind Json.asNat? := rfl
    rw [Table.get?_ofList] at hget
    obtain ⟨⟨k, c'⟩, hfind, rfl⟩ := Option.map_eq_some_iff.mp hget
    obtain ⟨hk, behind, front, hsplit, hbehind⟩ := List.find?_eq_some_iff_append.mp hfind
    obtain rfl : k = id := by simpa using hk
    have hlist : found = front.reverse ++ (k, c') :: behind.reverse := by
      rw [← found.reverse_reverse, hsplit]
      simp
    have hself : (k, c') ∈ found := by rw [hlist]; simp
    obtain ⟨hne, hy, hx, hcell⟩ := (hmem k c').mp hself
    refine ⟨⟨hx, hy⟩, (hnumber c').trans hcell, fun b hbx hby hb => ?_⟩
    rw [hnumber] at hb
    have hother := (hmem k b).mpr ⟨hne, hby, hbx, hb⟩
    rw [hlist, List.mem_append, List.mem_cons] at hother
    rw [hlist, List.pairwise_append] at hsorted
    rcases hother with hfront | hsame | hafter
    · exact .inr (hsorted.2.2 _ hfront _ List.mem_cons_self)
    · exact .inl (congrArg Prod.snd hsame)
    · have := hbehind _ (List.mem_reverse.mp hafter)
      simp at this

end Reading

theorem rowNumbers_eq (f : Coord → Nat) (y x n : Nat) :
    rowNumbers y x ((List.range' x n).map fun x => Json.nat (f ⟨x, y⟩)) =
      .ok ((List.range' x n).filterMap fun x =>
        if f ⟨x, y⟩ = 0 then none else some (f ⟨x, y⟩, ⟨x, y⟩)) := by
  induction n generalizing x with
  | zero => rfl
  | succ n ih =>
    rw [List.range'_succ, List.map_cons, rowNumbers, ih, List.filterMap_cons]
    show Except.ok _ = _
    by_cases hzero : f ⟨x, y⟩ = 0
    · simp [hzero]
    · simp [hzero]

theorem rowsNumbers_eq (f : Coord → Nat) (side y n : Nat) :
    rowsNumbers y ((List.range' y n).map fun y =>
        Json.array ((List.range' 1 side).map fun x => Json.nat (f ⟨x, y⟩))) =
      .ok ((List.range' y n).flatMap fun y => (List.range' 1 side).filterMap fun x =>
        if f ⟨x, y⟩ = 0 then none else some (f ⟨x, y⟩, ⟨x, y⟩)) := by
  induction n generalizing y with
  | zero => rfl
  | succ n ih =>
    rw [List.range'_succ, List.map_cons, rowsNumbers]
    simp only [arrayItems, Json.asArray?]
    rw [rowNumbers_eq, ih, List.flatMap_cons]

-- The numbered cells of a grid, row by row.
def numberedCells (f : Coord → Nat) (side : Nat) : List (Nat × Coord) :=
  (List.range' 1 side).flatMap fun y => (List.range' 1 side).filterMap fun x =>
    if f ⟨x, y⟩ = 0 then none else some (f ⟨x, y⟩, ⟨x, y⟩)

theorem mem_numberedCells {f : Coord → Nat} {side k : Nat} {c : Coord} :
    (k, c) ∈ numberedCells f side ↔ c.Within side ∧ f c = k ∧ k ≠ 0 := by
  obtain ⟨x, y⟩ := c
  simp only [numberedCells, List.mem_flatMap, List.mem_filterMap, List.mem_range'_1, Coord.Within]
  constructor
  · rintro ⟨y', hy, x', hx, hcell⟩
    split at hcell
    · cases hcell
    · next hne =>
      cases hcell
      exact ⟨by omega, rfl, hne⟩
  · rintro ⟨hwithin, rfl, hne⟩
    refine ⟨y, by omega, x, by omega, ?_⟩
    rw [if_neg hne]

theorem readGridnums_eq (side : Nat) (starts : Table Clue) :
    readGridnums (.array ((Spec.numberRows side starts).map fun row => .array (row.map Json.nat))) =
      .ok (.ofList (numberedCells (Spec.numberAt starts) side)) := by
  have hrows : (Spec.numberRows side starts).map (fun row => Json.array (row.map Json.nat)) =
      (List.range' 1 side).map fun y => Json.array ((List.range' 1 side).map fun x =>
        Json.nat (Spec.numberAt starts ⟨x, y⟩)) := by
    rw [Spec.numberRows, List.map_map]
    apply List.map_congr_left
    intro y _
    rw [Function.comp_apply, List.map_map]
    rfl
  rw [readGridnums, hrows]
  simp only [arrayItems, Json.asArray?]
  rw [rowsNumbers_eq (Spec.numberAt starts)]
  rfl

-- Each id stands where its clues start.
theorem get?_numberedCells {p q : Puzzle} (hq : p.Outcome q) (hl : p.Lawful) {e : Entry}
    (he : e ∈ p.entries) :
    (Table.ofList (numberedCells (Spec.numberAt q.starts) p.dimensions.side)).get? e.id =
      some e.position := by
  have hsound := hl.sound e he
  apply Table.get?_ofList_of_unique
  · exact mem_numberedCells.mpr ⟨hsound.within, hq.numberAt_eq hl he, Nat.ne_of_gt hsound.id_pos⟩
  · intro c hc
    obtain ⟨-, hid, hne⟩ := mem_numberedCells.mp hc
    obtain ⟨f, hf, hfid, hfpos⟩ := hq.exists_of_numberAt (hid ▸ hne)
    rw [← hfpos]
    exact (hl.agree f hf e he).position (hfid.trans hid)

end Import

end Cruciverb
