import Cruciverb.Text.Blank
import Cruciverb.Text.DecimalDigit
import Cruciverb.Text.Numeral
import Mathlib.Data.List.Induction
import Mathlib.Data.List.TakeWhile
import Mathlib.Tactic.IntervalCases

namespace Cruciverb.Text

theorem toList_toString (n : Nat) : (toString n).toList = Nat.toDigits 10 n := Nat.toList_repr

theorem isDigit_of_mem_toDigits {n : Nat} {c : Char} (h : c ∈ Nat.toDigits 10 n) :
    c.isDigit = true :=
  Nat.isDigit_of_mem_toDigits (by decide) (by decide) h

theorem toNat_of_isDigit {c : Char} (h : c.isDigit = true) : 48 ≤ c.toNat ∧ c.toNat ≤ 57 := by
  simpa [Char.isDigit, Char.le_def, UInt32.le_iff_toNat_le] using h

theorem isBlank_of_isDigit {c : Char} (h : c.isDigit = true) : isBlank c = false := by
  obtain ⟨hlo, hhi⟩ := toNat_of_isDigit h
  simp only [isBlank, Bool.or_eq_false_iff, Bool.and_eq_false_iff, decide_eq_false_iff_not,
    beq_eq_false_iff_ne, ne_eq]
  omega

theorem isBlank_of_isDecimalDigit {c : Char} (h : isDecimalDigit c = true) : isBlank c = false := by
  obtain ⟨e, he, hc⟩ := List.any_eq_true.mp h
  have hapart : ∀ e ∈ decimalDigits, 0x20 < e.1 ∧ e.2 < 0x85 ∨ 0xA0 < e.1 ∧ e.2 < 0x1680 ∨
      0x1680 < e.1 ∧ e.2 < 0x2000 ∨ 0x3000 < e.1 := by decide
  have he := hapart e he
  rw [Bool.and_eq_true, decide_eq_true_eq, decide_eq_true_eq] at hc
  simp only [isBlank, Bool.or_eq_false_iff, Bool.and_eq_false_iff, decide_eq_false_iff_not,
    beq_eq_false_iff_ne, ne_eq]
  omega

theorem isNumeral_toDigits (n : Nat) : isNumeral (Nat.toDigits 10 n) = true := by
  have hne : (Nat.toDigits 10 n).isEmpty = false := by simp [Nat.toDigits_ne_nil]
  rw [isNumeral, hne, List.all_eq_true.mpr fun _ => isDigit_of_mem_toDigits]
  rfl

theorem isDigit_of_isNumeral {cs : List Char} (h : isNumeral cs = true) {c : Char} (hc : c ∈ cs) :
    c.isDigit = true := by
  rw [isNumeral, Bool.and_eq_true] at h
  exact List.all_eq_true.mp h.2 c hc

theorem isNumeral_iff {cs : List Char} : isNumeral cs = true ↔ cs ≠ [] ∧ ∀ c ∈ cs, c.isDigit = true := by
  rw [isNumeral, Bool.and_eq_true, List.all_eq_true]
  simp

-- A written number is read as itself, unless it is too large to be read at all.
theorem readNumeral?_toDigits_eq_ite (limit n : Nat) :
    readNumeral? limit (Nat.toDigits 10 n) = if n < limit then some n else none := by
  rw [readNumeral?, if_pos (isNumeral_toDigits n)]
  simp only [Nat.ofDigitChars_ten_toDigits]

theorem readNumeral?_toDigits {limit n : Nat} (h : n < limit) :
    readNumeral? limit (Nat.toDigits 10 n) = some n := by
  rw [readNumeral?_toDigits_eq_ite, if_pos h]

-- What stands behind a numeral must not prolong it.
theorem spanDigits_append_of {ds rest : List Char} (hds : ∀ c ∈ ds, c.isDigit = true)
    (hrest : ∀ c, rest.head? = some c → c.isDigit = false) :
    spanDigits (ds ++ rest) = (ds, rest) := by
  have hstop : rest.takeWhile Char.isDigit = [] ∧ rest.dropWhile Char.isDigit = rest := by
    cases rest with
    | nil => exact ⟨rfl, rfl⟩
    | cons c rest => simp [hrest c rfl]
  rw [spanDigits, List.takeWhile_append_of_pos hds, List.dropWhile_append_of_pos hds, hstop.1,
    hstop.2, List.append_nil]

theorem spanDigits_toDigits (n : Nat) {rest : List Char}
    (hrest : ∀ c, rest.head? = some c → c.isDigit = false) :
    spanDigits (Nat.toDigits 10 n ++ rest) = (Nat.toDigits 10 n, rest) :=
  spanDigits_append_of (fun _ => isDigit_of_mem_toDigits) hrest

theorem head_toDigits {n : Nat} (h : 0 < n) : (Nat.toDigits 10 n).head? ≠ some '0' := by
  induction n using Nat.strongRecOn with
  | ind n ih =>
    by_cases hlt : n < 10
    · rw [Nat.toDigits_of_lt_base hlt, List.head?_cons, ne_eq, Option.some.injEq,
        Nat.digitChar_eq_zero]
      omega
    · have hrest := ih (n / 10) (by omega) (by omega)
      rw [Nat.toDigits_of_base_le (by decide) (by omega)]
      cases hfront : Nat.toDigits 10 (n / 10) with
      | nil => exact absurd hfront Nat.toDigits_ne_nil
      | cons c cs =>
        rw [hfront] at hrest
        simpa using hrest

theorem digitChar_toNat_sub {c : Char} (h : c.isDigit = true) :
    Nat.digitChar (c.toNat - 48) = c := by
  obtain ⟨hlo, hhi⟩ := toNat_of_isDigit h
  have hc : c = Char.ofNat c.toNat := (Char.ofNat_toNat c).symm
  generalize c.toNat = n at *
  subst hc
  interval_cases n <;> rfl

-- A numeral is the one that its value is written with, unless it begins with a zero.
theorem toDigits_ofDigitChars {ds : List Char} (hds : ∀ c ∈ ds, c.isDigit = true) (hne : ds ≠ [])
    (hhead : ds.head? ≠ some '0') : Nat.toDigits 10 (Nat.ofDigitChars 10 ds 0) = ds := by
  induction ds using List.reverseRecOn with
  | nil => exact absurd rfl hne
  | append_singleton front c ih =>
    have hc : c.isDigit = true := hds c (by simp)
    obtain ⟨hlo, hhi⟩ := toNat_of_isDigit hc
    rw [Nat.ofDigitChars_append, Nat.ofDigitChars_cons, Nat.ofDigitChars_nil]
    show Nat.toDigits 10 (10 * Nat.ofDigitChars 10 front 0 + (c.toNat - 48)) = front ++ [c]
    cases front with
    | nil =>
      rw [Nat.ofDigitChars_nil, Nat.toDigits_of_lt_base (by omega), Nat.mul_zero, Nat.zero_add,
        digitChar_toNat_sub hc]
      rfl
    | cons d front =>
      have hfront := ih (fun e he => hds e (by simp at he ⊢; tauto)) (by simp) (by simpa using hhead)
      have hpos : Nat.ofDigitChars 10 (d :: front) 0 ≠ 0 := by
        intro hzero
        rw [hzero, Nat.toDigits_zero] at hfront
        rw [← hfront] at hhead
        exact hhead rfl
      rw [Nat.toDigits_of_base_le (by decide) (by omega),
        show (10 * Nat.ofDigitChars 10 (d :: front) 0 + (c.toNat - 48)) / 10 =
          Nat.ofDigitChars 10 (d :: front) 0 by omega,
        show (10 * Nat.ofDigitChars 10 (d :: front) 0 + (c.toNat - 48)) % 10 = c.toNat - 48 by omega,
        hfront, digitChar_toNat_sub hc]

theorem ofDigitChars_lt {ds : List Char} (h : ∀ c ∈ ds, c.isDigit = true) :
    Nat.ofDigitChars 10 ds 0 < 10 ^ ds.length := by
  induction ds using List.reverseRecOn with
  | nil => decide
  | append_singleton front c ih =>
    have hfront := ih fun d hd => h d (by simp [hd])
    obtain ⟨-, hc⟩ := toNat_of_isDigit (h c (by simp))
    rw [Nat.ofDigitChars_append, Nat.ofDigitChars_cons, Nat.ofDigitChars_nil, List.length_append,
      List.length_singleton, Nat.pow_succ]
    change 10 * Nat.ofDigitChars 10 front 0 + (c.toNat - 48) < _
    omega

end Cruciverb.Text
