import Cruciverb.Answer.Format
import Cruciverb.Proofs.Answer.Settling

namespace Cruciverb.Answer

-- What the letters of a grid are.
def Plain (letters : List Char) : Prop := ∀ c ∈ letters, isCapital c = true ∨ c = star

namespace Format

-- The lengths, added up as numbers.
def size (f : Format) : Nat := (f.parts.map UInt64.toNat).sum

-- They are those of all letters, and no machine word overflows.
def Fills (f : Format) (letters : List Char) : Prop :=
  (f.parts.map UInt64.toNat).sum = letters.length ∧ letters.length < Text.wordLimit

-- The pieces of the given lengths, one behind the other. A piece that reaches past the end of the
-- text is cut short.
def cut (cs : List Char) (pos : Nat) : List UInt64 → List (List Char)
  | [] => []
  | n :: ns => (cs.take (pos + n.toNat)).drop pos :: cut cs (pos + n.toNat) ns

-- What the machine makes of letters, as long as it does not stop.
def apply (f : Format) (letters : List Char) : List Char := weave (cut letters 0 f.parts) f.gaps

@[simp] theorem length_cut (cs : List Char) (pos : Nat) (ns : List UInt64) :
    (cut cs pos ns).length = ns.length := by
  induction ns generalizing pos with
  | nil => rfl
  | cons n ns ih => simp [cut, ih]

theorem mem_of_mem_cut {cs piece : List Char} {pos : Nat} {ns : List UInt64}
    (h : piece ∈ cut cs pos ns) : ∀ c ∈ piece, c ∈ cs := by
  induction ns generalizing pos with
  | nil => cases h
  | cons n ns ih =>
    rcases List.mem_cons.mp h with rfl | h
    · intro c hc
      exact List.mem_of_mem_take (List.mem_of_mem_drop hc)
    · exact ih h

-- The pieces from a place on, if the lengths reach just to the end.
theorem cut_spec {cs : List Char} {pos : Nat} {ns : List UInt64}
    (hsum : pos + (ns.map UInt64.toNat).sum = cs.length) :
    (cut cs pos ns).flatten = cs.drop pos ∧
      (cut cs pos ns).map List.length = ns.map UInt64.toNat := by
  induction ns generalizing pos with
  | nil =>
    rw [List.map_nil, List.sum_nil, Nat.add_zero] at hsum
    simp [cut, hsum]
  | cons n ns ih =>
    rw [List.map_cons, List.sum_cons] at hsum
    obtain ⟨hflat, hlengths⟩ := @ih (pos + n.toNat) (by omega)
    have hpiece : (cs.take (pos + n.toNat)).drop pos = (cs.drop pos).take n.toNat := by
      rw [List.drop_take, Nat.add_sub_cancel_left]
    rw [cut, hpiece]
    constructor
    · rw [List.flatten_cons, hflat, ← List.drop_drop, List.take_append_drop]
    · rw [List.map_cons, List.map_cons, hlengths, List.length_take, List.length_drop]
      congr 1
      omega

variable {f : Format} {letters : List Char}

theorem parts_ne_nil (h : f.Fills letters) (hne : letters ≠ []) : f.parts ≠ [] := by
  intro hnil
  have hsum := h.1
  rw [hnil] at hsum
  exact hne (List.length_eq_zero_iff.mp hsum.symm)

theorem flatten_cut (h : f.Fills letters) : (cut letters 0 f.parts).flatten = letters := by
  have hsum : 0 + (f.parts.map UInt64.toNat).sum = letters.length := by rw [Nat.zero_add, h.1]
  exact (cut_spec hsum).1

theorem lengths_cut (h : f.Fills letters) :
    (cut letters 0 f.parts).map List.length = f.parts.map UInt64.toNat := by
  have hsum : 0 + (f.parts.map UInt64.toNat).sum = letters.length := by rw [Nat.zero_add, h.1]
  exact (cut_spec hsum).2

theorem isSeparator_of_plain (hplain : Plain letters) {c : Char} (hc : c ∈ letters) :
    isSeparator c = false := by
  rcases hplain c hc with hcap | rfl
  · rw [← Bool.not_eq_true]
    intro hsep
    rcases eq_of_isSeparator hsep with rfl | rfl <;> cases hcap
  · decide

-- The words of an answer and what stands between them.
def pieces (f : Format) (letters : List Char) : Phrase (List Char) where
  parts := cut letters 0 f.parts
  gaps := f.gaps
  gaps_length := by rw [length_cut, f.gaps_length]

theorem split_apply_of_free (hfree : ∀ c ∈ letters, isSeparator c = false) (hparts : f.parts ≠ []) :
    split (f.apply letters) = f.pieces letters := by
  refine @split_text (f.pieces letters) ?_ ?_
  · intro hnil
    have hlength : (cut letters 0 f.parts).length = 0 := congrArg List.length hnil
    rw [length_cut] at hlength
    exact hparts (List.length_eq_zero_iff.mp hlength)
  · exact fun part hpart c hc => hfree c (mem_of_mem_cut hpart c hc)

theorem split_apply (hplain : Plain letters) (h : f.Fills letters) (hne : letters ≠ []) :
    split (f.apply letters) = f.pieces letters :=
  split_apply_of_free (fun _ => isSeparator_of_plain hplain) (parts_ne_nil h hne)

theorem isLettered_apply (hplain : Plain letters) (h : f.Fills letters) (hne : letters ≠ []) :
    isLettered (f.apply letters) = true := by
  have happly : f.apply letters ≠ [] := by
    intro hnil
    have hparts : (split (f.apply letters)).parts = cut letters 0 f.parts := by
      rw [split_apply hplain h hne, pieces]
    have hflat := flatten_cut h
    rw [← hparts, hnil] at hflat
    exact hne hflat.symm
  rw [isLettered, Bool.and_eq_true, List.all_eq_true]
  refine ⟨by simpa using happly, fun c hc => ?_⟩
  rcases mem_weave hc with ⟨part, hpart, hc⟩ | hsep
  · rcases hplain c (mem_of_mem_cut hpart c hc) with hcap | rfl
    · rw [hcap, Bool.true_or, Bool.true_or]
    · rfl
  · rw [hsep, Bool.or_true]

theorem wordsOf_apply (hplain : Plain letters) (h : f.Fills letters) (hne : letters ≠ []) :
    wordsOf (f.apply letters) = cut letters 0 f.parts := by
  rw [wordsOf_of_isLettered (isLettered_apply hplain h hne), split_apply hplain h hne, pieces]

theorem lettersOf_apply (hplain : Plain letters) (h : f.Fills letters) (hne : letters ≠ []) :
    lettersOf (f.apply letters) = letters := by
  rw [lettersOf, wordsOf_apply hplain h hne, flatten_cut h]

-- No word is empty if no length is zero.
theorem words_apply_ne_nil (hplain : Plain letters) (h : f.Fills letters) (hne : letters ≠ [])
    (hpos : ∀ n ∈ f.parts, 0 < n.toNat) : ∀ w ∈ wordsOf (f.apply letters), w ≠ [] := by
  intro w hw
  rw [wordsOf_apply hplain h hne] at hw
  have hlength : w.length ∈ f.parts.map UInt64.toNat := by
    rw [← lengths_cut h]
    exact List.mem_map_of_mem hw
  obtain ⟨n, hn, hwn⟩ := List.mem_map.mp hlength
  have := hpos n hn
  exact List.ne_nil_of_length_pos (by omega)

end Format

end Cruciverb.Answer

namespace Cruciverb.Machine

open Cruciverb.Answer Cruciverb.Text

-- Adding up goes wrong just if the sum of all lengths is too large.
theorem foldlM_add {ns : List UInt64} {sum : Nat} (hsum : sum < wordLimit) :
    ns.foldlM (fun sum n => add sum n.toNat) sum =
      if sum + (ns.map UInt64.toNat).sum < wordLimit then some (sum + (ns.map UInt64.toNat).sum)
      else none := by
  induction ns generalizing sum with
  | nil => simp [hsum]
  | cons n ns ih =>
    rw [List.foldlM_cons, List.map_cons, List.sum_cons, ← Nat.add_assoc]
    by_cases hnext : sum + n.toNat < wordLimit
    · rw [add_eq hnext, Option.bind_eq_bind, Option.bind_some, ih hnext]
    · rw [add_eq_none (Nat.le_of_not_lt hnext), if_neg (by omega)]
      rfl

theorem sum_eq (ns : List UInt64) : sum ns =
    if (ns.map UInt64.toNat).sum < wordLimit then some (ns.map UInt64.toNat).sum else none := by
  rw [sum, foldlM_add (by decide), Nat.zero_add]

theorem sum_eq_some_iff {ns : List UInt64} {n : Nat} :
    sum ns = some n ↔ (ns.map UInt64.toNat).sum = n ∧ n < wordLimit := by
  rw [sum_eq]
  split
  · next hlt =>
    rw [Option.some.injEq]
    exact ⟨fun h => ⟨h, h ▸ hlt⟩, fun h => h.1⟩
  · next hlt =>
    refine iff_of_false (by simp) ?_
    rintro ⟨rfl, hlt'⟩
    exact hlt hlt'

theorem sum_eq_none_iff {ns : List UInt64} :
    sum ns = none ↔ wordLimit ≤ (ns.map UInt64.toNat).sum := by
  rw [sum_eq, ite_eq_right_iff, ← Nat.not_lt]
  simp

theorem slice_eq (letters : List Char) (a b : Nat) :
    (letters.take (min b letters.length)).drop (min a (min b letters.length)) =
      (letters.take b).drop a := by
  rw [← List.take_eq_take_min, ← List.length_take, ← List.drop_eq_drop_min]

-- Behind the first piece there is a separator for each piece that is left.
theorem weaveFrom_succ {letters : List Char} {gaps : List Separator} {i pos : Nat}
    {lengths : List UInt64} (h : gaps.length = i + lengths.length)
    (hlt : pos + (lengths.map UInt64.toNat).sum < wordLimit) :
    weaveFrom letters gaps (i + 1) pos lengths =
      some (List.zipWith (fun gap piece => gap.char :: piece) (gaps.drop i)
        (Format.cut letters pos lengths)).flatten := by
  induction lengths generalizing i pos with
  | nil => simp [weaveFrom, Format.cut]
  | cons n ns ih =>
    rw [List.length_cons] at h
    rw [List.map_cons, List.sum_cons] at hlt
    have hi : i < gaps.length := by omega
    rw [weaveFrom, front, if_neg i.succ_ne_zero, Nat.add_sub_cancel, List.getElem?_eq_getElem hi,
      List.drop_eq_getElem_cons hi, Format.cut, List.zipWith_cons_cons, List.flatten_cons,
      add_eq (by omega)]
    simp only [Option.map_some, Option.bind_eq_bind, Option.bind_some]
    rw [ih (by omega) (by omega)]
    simp only [Option.bind_some, slice_eq]
    rfl

-- No separator is missing, whatever the format, and nothing else goes wrong if the lengths can be added up.
theorem apply_eq {f : Format} (h : f.size < wordLimit) (letters : List Char) :
    apply f.parts f.gaps letters = some (f.apply letters) := by
  obtain ⟨lengths, gaps, hgaps⟩ := f
  rw [apply, Format.apply]
  rw [Format.size] at h
  dsimp only at h ⊢
  cases lengths with
  | nil => rfl
  | cons n ns =>
    have hlength : gaps.length = 0 + ns.length := by rw [hgaps, List.length_cons]; omega
    rw [List.map_cons, List.sum_cons] at h
    rw [weaveFrom, front, if_pos rfl, add_eq (by omega)]
    simp only [Option.bind_eq_bind, Option.bind_some]
    rw [weaveFrom_succ hlength (by omega), Format.cut, weave]
    simp only [Option.bind_some, slice_eq]
    rfl

end Cruciverb.Machine

namespace Cruciverb.Answer.Format

open Cruciverb.Text

variable {f : Format} {letters : List Char}

theorem total?_eq_some_iff {n : Nat} : f.total? = some n ↔ f.size = n ∧ n < wordLimit :=
  Machine.sum_eq_some_iff

theorem total?_eq_none_iff : f.total? = none ↔ wordLimit ≤ f.size := Machine.sum_eq_none_iff

theorem applied?_eq (h : f.size < wordLimit) (letters : List Char) :
    f.applied? letters = some (f.apply letters) := Machine.apply_eq h letters

-- What passes the comparison with the length of the letters is cut without a fault.
theorem Fills.total?_eq (h : f.Fills letters) : f.total? = some letters.length :=
  total?_eq_some_iff.mpr h

theorem Fills.applied?_eq (h : f.Fills letters) : f.applied? letters = some (f.apply letters) :=
  Format.applied?_eq (h.1.trans_lt h.2) letters

end Cruciverb.Answer.Format
