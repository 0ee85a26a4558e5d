import Cruciverb.Grid.Coord

namespace Cruciverb.Direction

theorem forall_iff {P : Direction → Prop} : (∀ d, P d) ↔ P .across ∧ P .down := by
  constructor
  · intro h
    exact ⟨h .across, h .down⟩
  · rintro ⟨hacross, hdown⟩ d
    cases d with
    | across => exact hacross
    | down => exact hdown

instance {P : Direction → Prop} [DecidablePred P] : Decidable (∀ d, P d) :=
  decidable_of_iff' _ forall_iff

end Cruciverb.Direction

namespace Cruciverb.Both

variable {α β γ : Type}

theorem ext_get {b c : Both α} (h : ∀ d, b.get d = c.get d) : b = c := by
  obtain ⟨across, down⟩ := b
  obtain ⟨across', down'⟩ := c
  obtain rfl : across = across' := h .across
  obtain rfl : down = down' := h .down
  rfl

theorem map_map_lists (f : α → β) (g : β → γ) (b : Both (List α)) :
    (b.map (·.map f)).map (·.map g) = b.map (·.map (g ∘ f)) := by
  apply ext_get
  intro d
  simp only [get_map, List.map_map]

theorem map_lists_congr {f g : α → β} {b : Both (List α)} (h : ∀ d, ∀ a ∈ b.get d, f a = g a) :
    b.map (·.map f) = b.map (·.map g) := by
  apply ext_get
  intro d
  rw [get_map, get_map]
  exact List.map_congr_left (h d)

end Cruciverb.Both

namespace Cruciverb.Coord

variable {side : Nat}

-- Along the rows, and from each row to the next.
def Before (b c : Coord) : Prop := b.y < c.y ∨ b.y = c.y ∧ b.x < c.x

instance (b c : Coord) : Decidable (b.Before c) := inferInstanceAs (Decidable (_ ∨ _))

theorem not_before_self (c : Coord) : ¬ c.Before c := by
  simp only [Before]
  omega

theorem Before.ne {b c : Coord} (h : b.Before c) : b ≠ c := by
  rintro rfl
  exact not_before_self b h

-- The cell at a place.
def ofIndex (side i : Nat) : Coord := ⟨i % side + 1, i / side + 1⟩

theorem within_ofIndex {i : Nat} (h : i < side * side) : (ofIndex side i).Within side := by
  have hside : 0 < side := Nat.pos_of_ne_zero (by rintro rfl; simp at h)
  have hx := Nat.mod_lt i hside
  have hy : i / side < side := Nat.div_lt_of_lt_mul h
  exact ⟨Nat.succ_pos _, hx, Nat.succ_pos _, hy⟩

theorem flatIndex_ofIndex (i : Nat) : (ofIndex side i).flatIndex side = i := by
  simp only [flatIndex, ofIndex, Nat.add_sub_cancel]
  rw [Nat.mul_comm]
  exact Nat.mod_add_div i side

theorem ofIndex_flatIndex {c : Coord} (h : c.Within side) : ofIndex side (c.flatIndex side) = c := by
  obtain ⟨hx, hx', hy, hy'⟩ := h
  have hlt : c.x - 1 < side := by omega
  obtain ⟨x, y⟩ := c
  simp only [ofIndex, flatIndex, mk.injEq] at *
  constructor
  · rw [Nat.add_mul_mod_self_right, Nat.mod_eq_of_lt hlt]
    omega
  · rw [Nat.add_mul_div_right _ _ (by omega), Nat.div_eq_of_lt hlt]
    omega

-- The next cell stands beside the one before it, or begins the row below.
theorem ofIndex_succ (hside : 0 < side) (i : Nat) : ofIndex side (i + 1) =
    if (ofIndex side i).x = side then ⟨1, (ofIndex side i).y + 1⟩
    else ⟨(ofIndex side i).x + 1, (ofIndex side i).y⟩ := by
  have hlt := Nat.mod_lt i hside
  have hi : i + 1 = i % side + 1 + side * (i / side) := by
    have := Nat.mod_add_div i side
    omega
  split
  · next hend =>
    have hlast : i % side + 1 = side := hend
    have hnext : i + 1 = side * (i / side + 1) := by
      rw [Nat.mul_succ]
      omega
    simp only [ofIndex, mk.injEq]
    rw [hnext, Nat.mul_mod_right, Nat.mul_div_cancel_left _ hside]
    exact ⟨rfl, rfl⟩
  · next hinner =>
    have hinner : i % side + 1 < side := Nat.lt_of_le_of_ne hlt hinner
    simp only [ofIndex, mk.injEq]
    rw [hi, Nat.add_mul_mod_self_left, Nat.mod_eq_of_lt hinner, Nat.add_mul_div_left _ _ hside,
      Nat.div_eq_of_lt hinner, Nat.zero_add]
    exact ⟨rfl, rfl⟩

theorem flatIndex_inj {b c : Coord} (hb : b.Within side) (hc : c.Within side)
    (h : b.flatIndex side = c.flatIndex side) : b = c := by
  rw [← ofIndex_flatIndex hb, h, ofIndex_flatIndex hc]

theorem ordinal_lt_iff {b c : Coord} (hb : b.Within side) (hc : c.Within side) :
    b.ordinal side < c.ordinal side ↔ b.Before c := by
  obtain ⟨hbx, hbx', hby, hby'⟩ := hb
  obtain ⟨hcx, hcx', hcy, hcy'⟩ := hc
  simp only [ordinal, Before]
  rcases Nat.lt_trichotomy b.y c.y with hlt | heq | hgt
  · have : (b.y + 1) * side ≤ c.y * side := Nat.mul_le_mul_right side hlt
    rw [Nat.succ_mul] at this
    omega
  · rw [heq]
    omega
  · have : (c.y + 1) * side ≤ b.y * side := Nat.mul_le_mul_right side hgt
    rw [Nat.succ_mul] at this
    omega

theorem before_ofIndex {i j : Nat} (hij : i < j) (hj : j < side * side) :
    (ofIndex side i).Before (ofIndex side j) := by
  have hordinal (k : Nat) : (ofIndex side k).ordinal side = k + 1 + side := by
    have hflat : (ofIndex side k).flatIndex side = k := flatIndex_ofIndex k
    simp only [flatIndex, ofIndex, ordinal, Nat.add_sub_cancel] at hflat ⊢
    rw [Nat.add_mul]
    omega
  rw [← ordinal_lt_iff (within_ofIndex (Nat.lt_trans hij hj)) (within_ofIndex hj), hordinal, hordinal]
  omega

-- Every cell of a square grid, along the rows.
def cells (side : Nat) : List Coord :=
  (List.range' 1 side).flatMap fun y => (List.range' 1 side).map fun x => ⟨x, y⟩

theorem mem_cells {c : Coord} : c ∈ cells side ↔ c.Within side := by
  obtain ⟨x, y⟩ := c
  simp only [cells, List.mem_flatMap, List.mem_map, List.mem_range'_1, mk.injEq, Within]
  constructor
  · rintro ⟨y', hy, x', hx, rfl, rfl⟩
    omega
  · rintro ⟨hx, hx', hy, hy'⟩
    exact ⟨y, by omega, x, by omega, rfl, rfl⟩

theorem pairwise_cells (side : Nat) : (cells side).Pairwise Before := by
  have hline : (List.range' 1 side).Pairwise (· < ·) := List.pairwise_lt_range'
  rw [cells, List.pairwise_flatMap]
  constructor
  · intro y _
    rw [List.pairwise_map]
    exact hline.imp fun h => .inr ⟨rfl, h⟩
  · refine hline.imp fun hlt b hb c hc => ?_
    obtain ⟨_, -, rfl⟩ := List.mem_map.mp hb
    obtain ⟨_, -, rfl⟩ := List.mem_map.mp hc
    exact .inl hlt

theorem nodup_cells (side : Nat) : (cells side).Nodup :=
  (pairwise_cells side).imp Before.ne

-- The cells are at the places from the first to the last.
theorem cells_eq (side : Nat) : cells side = (List.range (side * side)).map (ofIndex side) := by
  have hplaces : ((List.range (side * side)).map (ofIndex side)).Pairwise Before := by
    rw [List.pairwise_map]
    exact List.pairwise_lt_range.imp_of_mem fun _ hj hij => before_ofIndex hij (List.mem_range.mp hj)
  refine List.Perm.eq_of_pairwise (fun b c _ _ hbc hcb => ?_) (pairwise_cells side) hplaces ?_
  · simp only [Before] at hbc hcb
    omega
  · rw [List.perm_ext_iff_of_nodup (nodup_cells side) (hplaces.imp Before.ne)]
    intro c
    rw [mem_cells, List.mem_map]
    constructor
    · intro h
      exact ⟨c.flatIndex side, List.mem_range.mpr (flatIndex_lt h), ofIndex_flatIndex h⟩
    · rintro ⟨i, hi, rfl⟩
      exact within_ofIndex (List.mem_range.mp hi)

theorem move_zero (c : Coord) (d : Direction) : c.move d 0 = c := by cases d <;> rfl

theorem move_move (c : Coord) (d : Direction) (m n : Nat) :
    (c.move d m).move d n = c.move d (m + n) := by
  cases d <;> simp [move, Nat.add_assoc]

theorem move_inj {c : Coord} {d : Direction} {m n : Nat} (h : c.move d m = c.move d n) : m = n := by
  cases d <;> simpa [move] using h

theorem within_move {c : Coord} (h : c.Within side) {d : Direction} {n : Nat}
    (hn : n + c.along d ≤ side) : (c.move d n).Within side := by
  obtain ⟨hx, hx', hy, hy'⟩ := h
  cases d <;> simp only [move, along, Within] at * <;> omega

theorem flatIndex_move {c : Coord} (h : c.Within side) (d : Direction) (n : Nat) :
    (c.move d n).flatIndex side = c.flatIndex side + n * d.step side := by
  obtain ⟨hx, -, hy, -⟩ := h
  cases d with
  | across =>
    simp only [move, flatIndex, Direction.step]
    omega
  | down =>
    simp only [move, flatIndex, Direction.step]
    rw [show c.y + n - 1 = c.y - 1 + n by omega, Nat.add_mul, Nat.add_assoc]

end Cruciverb.Coord
