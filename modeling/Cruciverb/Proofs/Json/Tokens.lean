import Cruciverb.Json.Printer
import Cruciverb.Json.Token
import Cruciverb.Proofs.Text.Numerals

namespace Cruciverb.Json

open Cruciverb.Text

theorem hexValue?_hexDigit {n : Nat} (h : n < 16) : hexValue? (hexDigit n) = some n := by
  interval_cases n <;> rfl

theorem readUnit?_hexDigits {n : Nat} (h : n < 256) (rest : List Char) :
    readUnit? ('0' :: '0' :: hexDigit (n / 16) :: hexDigit (n % 16) :: rest) = some (n, rest) := by
  have hzero : hexValue? '0' = some 0 := rfl
  simp only [readUnit?, hzero, hexValue?_hexDigit (show n / 16 < 16 by omega),
    hexValue?_hexDigit (show n % 16 < 16 by omega), Option.some.injEq, Prod.mk.injEq, and_true]
  omega

-- A control character is written by its number, which is no half of a pair.
theorem readChar?_control {c : Char} (hctrl : c.toNat < 32) (rest : List Char) :
    readChar? ('\\' :: 'u' :: '0' :: '0' :: hexDigit (c.toNat / 16) :: hexDigit (c.toNat % 16) :: rest) =
      some (some c, rest) := by
  have hlow : isLowUnit c.toNat = false := by
    simp only [isLowUnit, Bool.and_eq_false_iff, decide_eq_false_iff_not]
    omega
  have hhigh : isHighUnit c.toNat = false := by
    simp only [isHighUnit, Bool.and_eq_false_iff, decide_eq_false_iff_not]
    omega
  simp only [readChar?, readEscapedUnit?, readUnit?_hexDigits (show c.toNat < 256 by omega), hlow, hhigh,
    Bool.false_eq_true, if_false, Char.ofNat_toNat, Option.map_some]

theorem readChar?_plain {c : Char} (hquote : c ≠ '"') (hslash : c ≠ '\\') (hctrl : ¬ c.toNat < 32)
    (rest : List Char) : readChar? (c :: rest) = some (some c, rest) := by
  unfold readChar?
  split
  · next h => cases h
  · next h => cases h; exact absurd rfl hquote
  · next h => cases h; exact absurd rfl hslash
  · next h => cases h; exact absurd rfl hslash
  · next h =>
    cases h
    rw [if_neg]
    simp [hctrl, hslash]

-- A character is read back from its written form.
theorem readChar?_escape (c : Char) (rest : List Char) :
    readChar? (escape c ++ rest) = some (some c, rest) := by
  rw [escape]
  split
  · next h => rw [h]; rfl
  split
  · next h => rw [h]; rfl
  split
  · next h => rw [h]; rfl
  split
  · next h => rw [h]; rfl
  split
  · next h => rw [h]; rfl
  split
  · next h => rw [h]; rfl
  split
  · next h => rw [h]; rfl
  split
  · next hctrl => exact readChar?_control hctrl rest
  · next hquote hslash _ _ _ _ _ hctrl => exact readChar?_plain hquote hslash hctrl rest

theorem readString?_escape (s : List Char) (rest : List Char) :
    readString? (s.flatMap escape ++ '"' :: rest) = some (s, rest) := by
  induction s with
  | nil =>
    rw [readString?]
    rfl
  | cons c s ih =>
    rw [List.flatMap_cons, List.append_assoc, readString?]
    split
    · next h =>
      rw [readChar?_escape] at h
      cases h
    · next h =>
      rw [readChar?_escape] at h
      cases h
    · next h =>
      rw [readChar?_escape] at h
      cases h
      rw [ih]
      rfl

-- What must not stand behind a number, so that it ends there.
def Stops (rest : List Char) : Prop :=
  ∀ c, rest.head? = some c → c.isDigit = false ∧ c ≠ '.' ∧ c ≠ 'e' ∧ c ≠ 'E'

theorem stops_nil : Stops [] := by intro c hc; cases hc

theorem stops_cons {c : Char} {rest : List Char} (h : c = ',' ∨ c = ']' ∨ c = '\x7d') :
    Stops (c :: rest) := by
  intro d hd
  cases hd
  rcases h with rfl | rfl | rfl <;> decide

theorem le_ofDigitChars (ds : List Char) (n : Nat) : n ≤ Nat.ofDigitChars 10 ds n := by
  rw [Nat.ofDigitChars_eq_ofDigitChars_zero]
  have := Nat.le_mul_of_pos_left n (Nat.pow_pos (n := ds.length) (show 0 < 10 by decide))
  omega

-- All digits are taken in as long as the number fits a word.
theorem absorb_eq {ds : List Char} {n : Nat} (h : Nat.ofDigitChars 10 ds n < wordLimit) :
    absorb n ds = (Nat.ofDigitChars 10 ds n, []) := by
  induction ds generalizing n with
  | nil => rw [absorb, Nat.ofDigitChars_nil]
  | cons c ds ih =>
    rw [Nat.ofDigitChars_cons, Nat.mul_comm] at h ⊢
    have hle := le_ofDigitChars ds (n * 10 + (c.toNat - '0'.toNat))
    have hnext : n * 10 + digitValue c < wordLimit := Nat.lt_of_le_of_lt hle h
    rw [absorb, if_pos hnext]
    exact ih h

theorem wholePart?_toDigits {n : Nat} (h : n < wordLimit) {rest : List Char} (hrest : Stops rest) :
    wholePart? (Nat.toDigits 10 n ++ rest) = some (⟨n, 0, true⟩, rest) := by
  have hspan := spanDigits_toDigits n fun c hc => (hrest c hc).1
  have habsorb : absorb 0 (Nat.toDigits 10 n) = (n, []) := by
    rw [absorb_eq (by rwa [Nat.ofDigitChars_ten_toDigits]), Nat.ofDigitChars_ten_toDigits]
  rw [wholePart?, hspan]
  dsimp only
  split
  · next hnil => exact absurd hnil Nat.toDigits_ne_nil
  · next d ds hzero =>
    exfalso
    by_cases hn : n = 0
    · rw [hn, Nat.toDigits_zero] at hzero
      cases hzero
    · have hhead := head_toDigits (Nat.pos_of_ne_zero hn)
      rw [hzero] at hhead
      exact hhead rfl
  · rw [habsorb]
    rfl

theorem readNumber?_toDigits {n : Nat} (h : n < wordLimit) {rest : List Char} (hrest : Stops rest) :
    readNumber? (Nat.toDigits 10 n ++ rest) = some (.natural n, rest) := by
  have hfraction (p : Parts) : fraction? p rest = some (p, rest) := by
    unfold fraction?
    split
    · next cs => exact absurd rfl (hrest '.' rfl).2.1
    · rfl
  have hexponent (p : Parts) : exponent? p rest = some (p, rest) := by
    unfold exponent?
    split
    · rfl
    · next c cs =>
      obtain ⟨-, -, he, hE⟩ := hrest c rfl
      rw [if_neg (by simp [he, hE])]
  have hminus : ∀ cs, Nat.toDigits 10 n ++ rest ≠ '-' :: cs := by
    intro cs heq
    cases hfront : Nat.toDigits 10 n with
    | nil => exact absurd hfront Nat.toDigits_ne_nil
    | cons c ds =>
      have hc : c.isDigit = true := isDigit_of_mem_toDigits (hfront ▸ List.mem_cons_self)
      rw [hfront, List.cons_append, List.cons.injEq] at heq
      rw [heq.1] at hc
      exact absurd hc (by decide)
  unfold readNumber?
  split
  next negative cs hsplit =>
    split at hsplit
    · next heq => exact absurd heq (hminus _)
    · cases hsplit
      simp only [wholePart?_toDigits h hrest, hfraction, hexponent]
      rfl

end Cruciverb.Json
