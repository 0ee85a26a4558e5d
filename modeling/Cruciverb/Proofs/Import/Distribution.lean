import Cruciverb.Import.Sequence
import Mathlib.Algebra.GroupWithZero.Nat
import Mathlib.Data.List.Infix
import Mathlib.Data.List.TakeDrop

namespace Cruciverb.Import

open Cruciverb.Answer Cruciverb.Text

-- The lengths, added up as numbers.
def amount (ns : List UInt64) : Nat := (ns.map UInt64.toNat).sum

@[simp] theorem amount_nil : amount [] = 0 := rfl

@[simp] theorem amount_cons (n : UInt64) (ns : List UInt64) :
    amount (n :: ns) = n.toNat + amount ns := by
  simp [amount]

@[simp] theorem amount_append (ms ns : List UInt64) : amount (ms ++ ns) = amount ms + amount ns := by
  simp [amount]

theorem amount_le_of_prefix {ms ns : List UInt64} (h : ms <+: ns) : amount ms ≤ amount ns := by
  obtain ⟨rest, rfl⟩ := h
  rw [amount_append]
  exact Nat.le_add_right _ _

section Filling

variable {clue : String} {m : Member}

theorem fill_ok {remaining : Nat} {segs block behind : List Segment}
    (h : fill clue m remaining segs = .ok (block, behind)) :
    block ++ behind = segs ∧ amount (block.map (·.2)) = remaining := by
  induction segs generalizing remaining block with
  | nil =>
    rw [fill] at h
    split at h
    · next hzero =>
      cases h
      exact ⟨rfl, hzero.symm⟩
    · cases h
  | cons seg rest ih =>
    obtain ⟨gap, n⟩ := seg
    rw [fill] at h
    split at h
    · next hzero =>
      cases h
      exact ⟨rfl, hzero.symm⟩
    · split at h
      · cases h
      · next hle =>
        split at h
        · cases h
        · next block' behind' hfill =>
          cases h
          obtain ⟨happend, hamount⟩ := ih hfill
          refine ⟨by rw [List.cons_append, happend], ?_⟩
          rw [List.map_cons, amount_cons, hamount]
          exact Nat.add_sub_of_le (Nat.le_of_not_lt hle)

-- Why lengths do not come to a target: there are too few, or one of them reaches past it.
inductive Unfilled (clue : String) (m : Member) (target : Nat) : List UInt64 → Error → Prop where
  | exhausted {rest : List UInt64} (short : amount rest < target) :
      Unfilled clue m target rest (.formatExhausted clue m.id m.direction)
  | overshoot {block : List UInt64} {n : UInt64} {behind : List UInt64} (below : amount block < target)
      (beyond : target < amount block + n.toNat) :
      Unfilled clue m target (block ++ n :: behind)
        (.formatOvershoot clue n.toNat (target - amount block) m.id m.direction)

theorem Unfilled.cons {target : Nat} {rest : List UInt64} {e : Error} {n : UInt64}
    (hle : n.toNat ≤ target) (h : Unfilled clue m (target - n.toNat) rest e) :
    Unfilled clue m target (n :: rest) e := by
  cases h with
  | exhausted short =>
    refine .exhausted ?_
    rw [amount_cons]
    omega
  | @overshoot block k behind below beyond =>
    have hleft : target - n.toNat - amount block = target - amount (n :: block) := by
      rw [amount_cons]
      omega
    rw [hleft, ← List.cons_append]
    refine .overshoot ?_ ?_ <;> rw [amount_cons] <;> omega

-- No block at the front fills the answer then.
theorem Unfilled.amount_ne {target : Nat} {rest : List UInt64} {e : Error}
    (h : Unfilled clue m target rest e) {block : List UInt64} (hblock : block <+: rest) :
    amount block ≠ target := by
  cases h with
  | exhausted short =>
    have := amount_le_of_prefix hblock
    omega
  | @overshoot front n behind below beyond =>
    rcases List.prefix_or_prefix_of_prefix hblock (List.prefix_append front (n :: behind)) with hle | hle
    · have := amount_le_of_prefix hle
      omega
    · obtain ⟨tail, rfl⟩ := hle
      rw [List.prefix_append_right_inj] at hblock
      rcases List.prefix_cons_iff.mp hblock with rfl | ⟨tail, rfl, -⟩
      · rw [List.append_nil]
        omega
      · rw [amount_append, amount_cons]
        omega

theorem unfilled_of_fill {remaining : Nat} {segs : List Segment} {e : Error}
    (h : fill clue m remaining segs = .error e) : Unfilled clue m remaining (segs.map (·.2)) e := by
  induction segs generalizing remaining with
  | nil =>
    rw [fill] at h
    split at h
    · cases h
    · next hne =>
      cases h
      exact .exhausted (Nat.pos_of_ne_zero hne)
  | cons seg rest ih =>
    obtain ⟨gap, n⟩ := seg
    rw [fill] at h
    split at h
    · cases h
    · next hne =>
      split at h
      · next hlt =>
        cases h
        have hover := @Unfilled.overshoot clue m remaining [] n (rest.map (·.2))
          (Nat.pos_of_ne_zero hne) (by simpa using hlt)
        exact hover
      · next hle =>
        split at h
        · next hfill =>
          cases h
          exact (ih hfill).cons (Nat.le_of_not_lt hle)
        · cases h

theorem fill_of_short {remaining : Nat} {segs : List Segment}
    (short : amount (segs.map (·.2)) < remaining) :
    fill clue m remaining segs = .error (.formatExhausted clue m.id m.direction) := by
  induction segs generalizing remaining with
  | nil => rw [fill, if_neg (Nat.ne_of_gt (Nat.zero_lt_of_lt short))]
  | cons seg rest ih =>
    obtain ⟨gap, n⟩ := seg
    rw [List.map_cons, amount_cons] at short
    dsimp only at short
    rw [fill, if_neg (by omega), if_neg (by omega), ih (by omega)]

theorem fill_of_beyond {remaining : Nat} {front : List Segment} {seg : Segment} (behind : List Segment)
    (below : amount (front.map (·.2)) < remaining)
    (beyond : remaining < amount (front.map (·.2)) + seg.2.toNat) :
    fill clue m remaining (front ++ seg :: behind) =
      .error (.formatOvershoot clue seg.2.toNat (remaining - amount (front.map (·.2))) m.id m.direction) := by
  induction front generalizing remaining with
  | nil =>
    rw [List.map_nil, amount_nil] at below beyond
    rw [List.nil_append, fill, if_neg (by omega), if_pos (by omega)]
    rfl
  | cons first front ih =>
    obtain ⟨gap, n⟩ := first
    rw [List.map_cons, amount_cons] at below beyond
    dsimp only at below beyond
    rw [List.cons_append, fill, if_neg (by omega), if_neg (by omega), ih (by omega) (by omega),
      List.map_cons, amount_cons, Nat.sub_sub]

theorem fill_error_iff {remaining : Nat} {segs : List Segment} {e : Error} :
    fill clue m remaining segs = .error e ↔ Unfilled clue m remaining (segs.map (·.2)) e := by
  refine ⟨unfilled_of_fill, fun h => ?_⟩
  generalize hns : segs.map (·.2) = ns at h
  cases h with
  | exhausted short => exact fill_of_short (hns ▸ short)
  | @overshoot block n behind below beyond =>
    obtain ⟨front, tail, rfl, rfl, htail⟩ := List.map_eq_append_iff.mp hns
    obtain ⟨seg, rest, rfl, rfl, -⟩ := List.map_eq_cons_iff.mp htail
    exact fill_of_beyond rest below beyond

-- A block of positive lengths is taken whole, and nothing more.
theorem fill_append {block : List Segment} (hpos : ∀ n ∈ block.map (·.2), 0 < n.toNat)
    (behind : List Segment) :
    fill clue m (amount (block.map (·.2))) (block ++ behind) = .ok (block, behind) := by
  induction block with
  | nil => cases behind <;> simp [fill]
  | cons seg block ih =>
    obtain ⟨gap, n⟩ := seg
    rw [List.map_cons, List.forall_mem_cons] at hpos
    have hn : 0 < n.toNat := hpos.1
    have hamount : amount (((gap, n) :: block).map (·.2)) = n.toNat + amount (block.map (·.2)) :=
      amount_cons _ _
    rw [hamount, List.cons_append, fill, if_neg (by omega), if_neg (by omega),
      Nat.add_sub_cancel_left, ih hpos.2]

end Filling

-- Blocks at the front of the lengths that fill the answers, and what is left behind them.
structure Cut (ns : List UInt64) (ms : List Member) (blocks : List (List UInt64)) (rest : List UInt64) :
    Prop where
  whole : blocks.flatten ++ rest = ns
  amounts : blocks.map amount = ms.map (·.length)

-- Why lengths cannot be distributed. Some are left when all answers are full, or there is a first answer
-- that no block at the front of what is left fills.
inductive Stops (clue : String) (ns : List UInt64) (ms : List Member) (e : Error) : Prop where
  | leftover {blocks : List (List UInt64)} {rest : List UInt64} (filled : Cut ns ms blocks rest)
      (more : rest ≠ []) (error : e = .formatLeftover clue (rest.map UInt64.toNat))
  | unfilled {before after : List Member} {m : Member} {blocks : List (List UInt64)} {rest : List UInt64}
      (order : ms = before ++ m :: after) (filled : Cut ns before blocks rest)
      (stuck : ∀ block, block <+: rest → amount block ≠ m.length)
      (error : Unfilled clue m m.length rest e)

theorem Cut.nil (ns : List UInt64) : Cut ns [] [] ns := ⟨rfl, rfl⟩

theorem Cut.cons {ns rest block : List UInt64} {ms : List Member} {m : Member}
    {blocks : List (List UInt64)} (h : Cut ns ms blocks rest) (hblock : amount block = m.length) :
    Cut (block ++ ns) (m :: ms) (block :: blocks) rest where
  whole := by rw [List.flatten_cons, List.append_assoc, h.whole]
  amounts := by rw [List.map_cons, List.map_cons, hblock, h.amounts]

theorem Stops.cons {clue : String} {ns block : List UInt64} {ms : List Member} {m : Member} {e : Error}
    (h : Stops clue ns ms e) (hblock : amount block = m.length) : Stops clue (block ++ ns) (m :: ms) e := by
  cases h with
  | leftover filled more error => exact .leftover (filled.cons hblock) more error
  | unfilled order filled stuck error =>
    exact .unfilled (by rw [order, List.cons_append]) (filled.cons hblock) stuck error

section Distributing

variable {clue : String} {ms : List Member} {segs : List Segment}

theorem fillAll_ok {fs : List Format} (h : fillAll clue ms segs = .ok fs) :
    ∃ blocks : List (List Segment), blocks.flatten = segs ∧ fs = blocks.map Segment.format ∧
      blocks.map (fun block => amount (block.map (·.2))) = ms.map (·.length) := by
  induction ms generalizing segs fs with
  | nil =>
    cases segs with
    | nil =>
      cases h
      exact ⟨[], rfl, rfl, rfl⟩
    | cons seg segs => cases h
  | cons m ms ih =>
    rw [fillAll] at h
    split at h
    · cases h
    · next block behind hfill =>
      split at h
      · cases h
      · next more hmore =>
        cases h
        obtain ⟨happend, hamount⟩ := fill_ok hfill
        obtain ⟨blocks, hflat, hformats, hamounts⟩ := ih hmore
        refine ⟨block :: blocks, ?_, ?_, ?_⟩
        · rw [List.flatten_cons, hflat, happend]
        · rw [List.map_cons, hformats]
        · rw [List.map_cons, List.map_cons, hamount, hamounts]

theorem fillAll_error {e : Error} (h : fillAll clue ms segs = .error e) :
    Stops clue (segs.map (·.2)) ms e := by
  induction ms generalizing segs with
  | nil =>
    cases segs with
    | nil => cases h
    | cons seg segs =>
      cases h
      exact .leftover (.nil _) (List.cons_ne_nil _ _) (by simp [Function.comp_def])
  | cons m ms ih =>
    rw [fillAll] at h
    split at h
    · next e' hfill =>
      cases h
      have herror := fill_error_iff.mp hfill
      exact .unfilled rfl (.nil _) (fun _ => herror.amount_ne) herror
    · next block behind hfill =>
      obtain ⟨rfl, hamount⟩ := fill_ok hfill
      split at h
      · next hmore =>
        cases h
        rw [List.map_append]
        exact (ih hmore).cons hamount
      · cases h

-- Where positive lengths can be cut into blocks, these are the blocks that are taken.
theorem fillAll_append (hpos : ∀ n ∈ segs.map (·.2), 0 < n.toNat) {before : List Member}
    {blocks : List (List UInt64)} {rest : List UInt64}
    (h : Cut (segs.map (·.2)) before blocks rest) :
    ∃ formats behind, formats.map (·.parts) = blocks ∧ behind.map (·.2) = rest ∧
      ∀ after, fillAll clue (before ++ after) segs = (fillAll clue after behind).map (formats ++ ·) := by
  induction before generalizing segs blocks with
  | nil =>
    obtain rfl : blocks = [] := List.map_eq_nil_iff.mp h.amounts
    refine ⟨[], segs, rfl, h.whole.symm, fun after => ?_⟩
    rw [List.nil_append]
    cases fillAll clue after segs <;> rfl
  | cons m before ih =>
    obtain ⟨whole, amounts⟩ := h
    cases blocks with
    | nil => cases amounts
    | cons block blocks =>
      rw [List.map_cons, List.map_cons, List.cons.injEq] at amounts
      rw [List.flatten_cons, List.append_assoc, eq_comm, List.map_eq_append_iff] at whole
      obtain ⟨front, behind, rfl, rfl, hbehind⟩ := whole
      rw [List.map_append, List.forall_mem_append] at hpos
      obtain ⟨formats, left, hformats, hleft, hfill⟩ := ih hpos.2 ⟨hbehind.symm, amounts.2⟩
      refine ⟨Segment.format front :: formats, left, ?_, hleft, fun after => ?_⟩
      · rw [List.map_cons, hformats]
        rfl
      · rw [List.cons_append, fillAll, ← amounts.1, fill_append hpos.1]
        dsimp only
        rw [hfill after]
        cases fillAll clue after left <;> rfl

end Distributing

theorem map_snd_segments (f : Format) : (segments f).map (·.2) = f.parts := by
  refine List.map_snd_zip ?_
  rw [List.length_cons, f.gaps_length]
  omega

theorem map_fst_tail_segments (f : Format) : (segments f).tail.map (·.1) = f.gaps := by
  rw [segments]
  cases hparts : f.parts with
  | nil =>
    have hlength := f.gaps_length
    rw [hparts] at hlength
    rw [List.eq_nil_of_length_eq_zero hlength]
    rfl
  | cons n ns =>
    refine List.map_fst_zip ?_
    rw [f.gaps_length, hparts]
    exact Nat.le_refl _

-- How many lengths the first formats take.
def offset (fs : List Format) (i : Nat) : Nat := ((fs.take i).map (·.parts.length)).sum

-- One format for each answer, and nothing of the whole format is lost between them.
structure Partition (f : Format) (ms : List Member) (fs : List Format) : Prop where
  length : fs.length = ms.length
  cut : Cut f.parts ms (fs.map (·.parts)) []
  -- the separators that stand between two lengths of the same block
  gaps : ∀ i g, fs[i]? = some g → g.gaps = (f.gaps.drop (offset fs i)).take (g.parts.length - 1)

-- The blocks are found again by counting lengths.
theorem getElem?_flatten_eq {blocks : List (List Segment)} {i : Nat} {block : List Segment}
    (h : blocks[i]? = some block) :
    block = (blocks.flatten.drop (offset (blocks.map Segment.format) i)).take block.length := by
  induction blocks generalizing i with
  | nil => cases h
  | cons first blocks ih =>
    cases i with
    | zero =>
      obtain rfl : first = block := Option.some.inj h
      rw [offset, List.take_zero, List.map_nil, List.sum_nil, List.drop_zero, List.flatten_cons,
        List.take_left]
    | succ i =>
      have hoffset : offset ((first :: blocks).map Segment.format) (i + 1) =
          first.length + offset (blocks.map Segment.format) i := by
        simp [offset, Segment.format]
      rw [hoffset, List.flatten_cons, ← List.drop_drop, List.drop_left]
      exact ih h

theorem partition_of_distribute {clue : String} {f : Format} {ms : List Member} {fs : List Format}
    (h : distribute clue f ms = .ok fs) : Partition f ms fs := by
  obtain ⟨blocks, hflat, rfl, hamounts⟩ := fillAll_ok h
  have hparts : (blocks.map Segment.format).map (·.parts) = blocks.map (·.map (·.2)) := by
    rw [List.map_map]
    rfl
  refine ⟨?length, ⟨?whole, ?amounts⟩, ?gaps⟩
  case length =>
    have hlength := congrArg List.length hamounts
    rw [List.length_map, List.length_map] at hlength
    rw [List.length_map, hlength]
  case whole =>
    rw [hparts, List.append_nil, ← List.map_flatten, hflat, map_snd_segments]
  case amounts =>
    rw [hparts, List.map_map]
    exact hamounts
  case gaps =>
    intro i g hg
    rw [List.getElem?_map, Option.map_eq_some_iff] at hg
    obtain ⟨block, hblock, rfl⟩ := hg
    have hpart := getElem?_flatten_eq hblock
    rw [hflat] at hpart
    have hgaps : (Segment.format block).gaps = block.tail.map (·.1) := rfl
    have hlength : (Segment.format block).parts.length = block.length := List.length_map _
    rw [hgaps, hlength]
    conv_lhs => rw [hpart]
    rw [← map_fst_tail_segments f, ← List.map_drop, ← List.map_take, List.tail_take_eq_take_tail,
      List.tail_drop_eq_drop_tail]

section Machine

-- The separators of a block with the one before the next length, if the block has begun.
def takeGap? (f : Format) (next : Nat) (lengths : List UInt64) (gaps : List Separator) :
    Option (List Separator) :=
  if lengths.isEmpty then some gaps
  else
    match Machine.sub next 1 with
    | none => none
    | some place => f.gaps[place]?.map fun gap => gaps ++ [gap]

-- Filling an answer by a place in the list of lengths, which moves on by one after each of them. There is
-- no result if another place is asked for than the lists have, or if the machine's arithmetic fails.
def fillAt (clue : String) (f : Format) (m : Member) (next : Nat) (lengths : List UInt64)
    (gaps : List Separator) (remaining : Nat) :
    Option (Except Error (Nat × List UInt64 × List Separator)) :=
  if remaining = 0 then some (.ok (next, lengths, gaps))
  else
    match _here : f.parts[next]? with
    | none => some (.error (.formatExhausted clue m.id m.direction))
    | some n =>
      if remaining < n.toNat then
        some (.error (.formatOvershoot clue n.toNat remaining m.id m.direction))
      else
        match takeGap? f next lengths gaps, Machine.sub remaining n.toNat, Machine.add next 1 with
        | some gaps, some remaining, some _ =>
          fillAt clue f m (next + 1) (lengths ++ [n]) gaps remaining
        | _, _, _ => none
  termination_by f.parts.length - next
  decreasing_by
    have := (List.getElem?_eq_some_iff.mp _here).1
    omega

def fillAllAt (clue : String) (f : Format) :
    (next : Nat) → List Member → Option (Except Error (List (List UInt64 × List Separator)))
  | next, [] =>
    if next < f.parts.length then
      some (.error (.formatLeftover clue ((f.parts.drop next).map (·.toNat))))
    else some (.ok [])
  | next, m :: ms =>
    match fillAt clue f m next [] [] m.length with
    | none => none
    | some (.error e) => some (.error e)
    | some (.ok (next, lengths, gaps)) =>
      match fillAllAt clue f next ms with
      | none => none
      | some (.error e) => some (.error e)
      | some (.ok formats) => some (.ok ((lengths, gaps) :: formats))

variable {clue : String} {f : Format} {m : Member}

theorem getElem?_parts {next : Nat} {gap : Separator} {n : UInt64}
    (h : (segments f)[next]? = some (gap, n)) : f.parts[next]? = some n := by
  rw [← map_snd_segments f, List.getElem?_map, h]
  rfl

-- Behind the first length, the separator before a length stands one place further to the front.
theorem getElem?_gaps {next : Nat} {gap : Separator} {n : UInt64}
    (h : (segments f)[next + 1]? = some (gap, n)) : f.gaps[next]? = some gap := by
  rw [← map_fst_tail_segments f, List.getElem?_map, List.getElem?_tail, h]
  rfl

theorem takeGap?_eq {next : Nat} {gap : Separator} {n : UInt64} (lengths : List UInt64)
    (gaps : List Separator) (hbegun : lengths ≠ [] → 0 < next)
    (h : (segments f)[next]? = some (gap, n)) :
    takeGap? f next lengths gaps = some (if lengths.isEmpty then gaps else gaps ++ [gap]) := by
  rw [takeGap?]
  cases lengths with
  | nil => rfl
  | cons first lengths =>
    cases next with
    | zero => exact absurd (hbegun (List.cons_ne_nil _ _)) (by decide)
    | succ next =>
      have hplace : Machine.sub (next + 1) 1 = some next := Machine.sub_eq (Nat.le_add_left 1 next)
      simp only [List.isEmpty_cons, Bool.false_eq_true, if_false, hplace, getElem?_gaps h, Option.map_some]

-- The place in the lists is always that of the segments that are left, so that nothing goes wrong.
theorem fillAt_eq (hsize : f.parts.length < wordLimit) (next : Nat) (lengths : List UInt64)
    (gaps : List Separator) (remaining : Nat) (hbegun : lengths ≠ [] → 0 < next) :
    fillAt clue f m next lengths gaps remaining =
      some ((fill clue m remaining ((segments f).drop next)).map fun filled =>
        (next + filled.1.length, lengths ++ filled.1.map (·.2),
          gaps ++ (if lengths.isEmpty then filled.1.tail else filled.1).map (·.1))) := by
  generalize hrest : (segments f).drop next = rest
  induction rest generalizing next lengths gaps remaining with
  | nil =>
    have hnone : f.parts[next]? = none := by
      rw [← map_snd_segments f, List.getElem?_map, List.getElem?_eq_none (List.drop_eq_nil_iff.mp hrest)]
      rfl
    rw [fillAt, fill]
    split
    · simp [Except.map]
    · split
      · rfl
      · next n hsome => rw [hnone] at hsome; cases hsome
  | cons seg rest ih =>
    obtain ⟨gap, n⟩ := seg
    have hhere : (segments f)[next]? = some (gap, n) := by
      rw [← List.head?_drop, hrest, List.head?_cons]
    have hpart := getElem?_parts hhere
    have hlt : next < f.parts.length := (List.getElem?_eq_some_iff.mp hpart).1
    have hnext : (segments f).drop (next + 1) = rest := by
      rw [← List.tail_drop, hrest, List.tail_cons]
    rw [fillAt, fill]
    split
    · simp [Except.map]
    · split
      · next hnone => rw [hpart] at hnone; cases hnone
      · next n' hsome =>
        obtain rfl : n = n' := Option.some.inj (hpart.symm.trans hsome)
        split
        · rfl
        · next hle =>
          have hminus : Machine.sub remaining n.toNat = some (remaining - n.toNat) := Machine.sub_eq (by omega)
          have hplus : Machine.add next 1 = some (next + 1) := Machine.add_eq (by omega)
          rw [takeGap?_eq lengths gaps hbegun hhere, hminus, hplus]
          dsimp only
          rw [ih (next + 1) _ _ _ (fun _ => Nat.succ_pos next) hnext]
          cases fill clue m (remaining - n.toNat) rest with
          | error e => rfl
          | ok filled =>
            cases lengths <;> simp [Except.map, Nat.add_comm, Nat.add_left_comm]

theorem fillAllAt_eq (hsize : f.parts.length < wordLimit) (next : Nat) (ms : List Member) :
    fillAllAt clue f next ms = some ((fillAll clue ms ((segments f).drop next)).map
      fun formats => formats.map fun g => (g.parts, g.gaps)) := by
  induction ms generalizing next with
  | nil =>
    have hleft : (f.parts.drop next).map (·.toNat) =
        ((segments f).drop next).map (·.2.toNat) := by
      rw [← map_snd_segments f, ← List.map_drop, List.map_map]
      rfl
    have hlength : (segments f).length = f.parts.length := by
      rw [← map_snd_segments f, List.length_map]
    rw [fillAllAt]
    cases hdrop : (segments f).drop next with
    | nil =>
      rw [List.drop_eq_nil_iff, hlength] at hdrop
      rw [if_neg (by omega)]
      rfl
    | cons seg rest =>
      have hlt : next < f.parts.length := by
        have hne : ¬ (segments f).length ≤ next := by
          rw [← List.drop_eq_nil_iff, hdrop]
          exact List.cons_ne_nil _ _
        omega
      rw [if_pos hlt, hleft, hdrop]
      rfl
  | cons m ms ih =>
    rw [fillAllAt, fillAll, fillAt_eq hsize next [] [] m.length (fun h => absurd rfl h)]
    cases hfill : fill clue m m.length ((segments f).drop next) with
    | error e => rfl
    | ok filled =>
      obtain ⟨block, behind⟩ := filled
      have hbehind : (segments f).drop (next + block.length) = behind := by
        rw [← List.drop_drop, ← (fill_ok hfill).1, List.drop_left]
      dsimp only [Except.map]
      rw [ih (next + block.length), hbehind]
      cases fillAll clue ms behind with
      | error e => rfl
      | ok formats => simp [Except.map, Segment.format]

end Machine

-- Distributing a format is exact: no place is missed and no sum overflows, what comes out is a partition, and
-- among positive lengths it is found whenever there is one, and there is no other.
theorem distribute_partition (clue : String) (f : Format) (ms : List Member) :
    (f.parts.length < wordLimit → fillAllAt clue f 0 ms =
        some ((distribute clue f ms).map fun fs => fs.map fun g => (g.parts, g.gaps))) ∧
      (∀ fs, distribute clue f ms = .ok fs → Partition f ms fs) ∧
      ((∀ n ∈ f.parts, 0 < n.toNat) →
        (∀ blocks, Cut f.parts ms blocks [] ↔
          ∃ fs, distribute clue f ms = .ok fs ∧ fs.map (·.parts) = blocks) ∧
        ∀ e, distribute clue f ms = .error e ↔ Stops clue f.parts ms e) := by
  refine ⟨fun hsize => fillAllAt_eq hsize 0 ms, fun fs => partition_of_distribute, fun hpos => ?_⟩
  have hsegs : ∀ n ∈ (segments f).map (·.2), 0 < n.toNat := by rwa [map_snd_segments]
  refine ⟨fun blocks => ⟨fun hcut => ?found, ?sound⟩, fun e => ⟨fun h => ?stops, fun hstops => ?refused⟩⟩
  case found =>
    rw [← map_snd_segments f] at hcut
    obtain ⟨fs, behind, hparts, hbehind, hfill⟩ := @fillAll_append clue _ hsegs _ _ _ hcut
    have hdone := hfill []
    rw [List.map_eq_nil_iff.mp hbehind, List.append_nil] at hdone
    exact ⟨fs, hdone.trans (congrArg Except.ok (List.append_nil fs)), hparts⟩
  case sound =>
    rintro ⟨fs, hfs, rfl⟩
    exact (partition_of_distribute hfs).cut
  case stops => exact map_snd_segments f ▸ fillAll_error h
  case refused =>
    rw [← map_snd_segments f] at hstops
    cases hstops with
    | leftover filled more error =>
      obtain ⟨fs, behind, -, rfl, hfill⟩ := @fillAll_append clue _ hsegs _ _ _ filled
      have hleft := hfill []
      rw [List.append_nil] at hleft
      rw [distribute, hleft, error]
      cases behind with
      | nil => exact absurd rfl more
      | cons seg behind => simp [fillAll, Except.map, Function.comp_def]
    | unfilled order filled stuck error =>
      obtain ⟨fs, behind, -, rfl, hfill⟩ := @fillAll_append clue _ hsegs _ _ _ filled
      rw [distribute, order, hfill, fillAll, fill_error_iff.mpr error]
      rfl

-- Two answers as long as can be, the second of two words.
def longFormat : Format := ⟨[18446744073709551615, 6, 18446744073709551609], [.hyphen, .comma], rfl⟩

def longMembers : List Member :=
  [⟨1, .across, 18446744073709551615⟩, ⟨9, .down, 18446744073709551615⟩]

def longFormats : List Format :=
  [⟨[18446744073709551615], [], rfl⟩, ⟨[6, 18446744073709551609], [.comma], rfl⟩]

theorem distribute_partition_longFormat :
    longFormat.parts.length < wordLimit ∧ (∀ n ∈ longFormat.parts, 0 < n.toNat) ∧
      fillAllAt "1,9 across" longFormat 0 longMembers =
        some (.ok (longFormats.map fun g => (g.parts, g.gaps))) ∧
      Partition longFormat longMembers longFormats ∧
      (∀ blocks, Cut longFormat.parts longMembers blocks [] → blocks = longFormats.map (·.parts)) ∧
      Stops "1,9 across" longFormat.parts (longMembers ++ [⟨2, .down, 1⟩])
        (.formatExhausted "1,9 across" 2 .down) := by
  have hsize : longFormat.parts.length < wordLimit := by decide
  have hpos : ∀ n ∈ longFormat.parts, 0 < n.toNat := by decide
  have hfs : distribute "1,9 across" longFormat longMembers = .ok longFormats := rfl
  obtain ⟨hmachine, hsound, hexact⟩ := distribute_partition "1,9 across" longFormat longMembers
  obtain ⟨-, -, hthird⟩ :=
    distribute_partition "1,9 across" longFormat (longMembers ++ [⟨2, .down, 1⟩])
  refine ⟨hsize, hpos, ?_, hsound _ hfs, fun blocks hblocks => ?_, ((hthird hpos).2 _).mp rfl⟩
  · rw [hmachine hsize, hfs]
    rfl
  · obtain ⟨fs, hfs', rfl⟩ := ((hexact hpos).1 blocks).mp hblocks
    rw [Except.ok.inj (hfs'.symm.trans hfs)]

end Cruciverb.Import
