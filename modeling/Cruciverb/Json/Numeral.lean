import Cruciverb.Json.Basic
import Cruciverb.Text.Numeral

namespace Cruciverb.Json

open Cruciverb.Text

def digitValue (c : Char) : Nat := c.toNat - 48

-- Takes in digits as long as the number fits a word, and hands back the digits that are left.
def absorb (significand : Nat) : List Char → Nat × List Char
  | [] => (significand, [])
  | c :: rest =>
    let next := significand * 10 + digitValue c
    if next < wordLimit then absorb next rest else (significand, c :: rest)

-- The largest power of ten that a float can hold.
def largestPower : Nat := 308

def powerOfTen (n : Nat) : Float := Float.ofScientific 1 false n

-- The number `f * 10 ^ exponent`, unless it is too large.
def scale? (f : Float) (exponent : Int) : Option Float :=
  if 0 ≤ exponent then
    if exponent ≤ largestPower then
      let scaled := f * powerOfTen exponent.toNat
      if scaled.isInf then none else some scaled
    else if f == 0 then some f
    else none
  else if -(largestPower : Int) ≤ exponent then some (f / powerOfTen exponent.natAbs)
  else if f == 0 then some f
  else scale? (f / powerOfTen largestPower) (exponent + largestPower)
  termination_by exponent.natAbs
  decreasing_by
    simp only [largestPower] at *
    omega

-- A number before its sign and before it is scaled.
structure Parts where
  significand : Nat
  exponent : Int
  whole : Bool

-- The digits before the point: a zero stands alone.
def wholePart? (cs : List Char) : Option (Parts × List Char) :=
  let (digits, rest) := spanDigits cs
  match digits with
  | [] => none
  | '0' :: _ :: _ => none
  | _ =>
    let (significand, left) := absorb 0 digits
    some (⟨significand, left.length, left.isEmpty⟩, rest)

-- The point, if there is one, with at least one digit behind it.
def fraction? (p : Parts) (cs : List Char) : Option (Parts × List Char) :=
  match cs with
  | '.' :: cs =>
    let (digits, rest) := spanDigits cs
    if digits.isEmpty then none
    else
      let (significand, left) := absorb p.significand digits
      some (⟨significand, p.exponent - (digits.length - left.length : Nat), false⟩, rest)
  | _ => some (p, cs)

def exponentSign (cs : List Char) : Bool × List Char :=
  match cs with
  | '+' :: cs => (false, cs)
  | '-' :: cs => (true, cs)
  | _ => (false, cs)

-- From here on a power of ten is too large to be counted.
def exponentLimit : Nat := 0x80000000

-- The exponent, if there is one. One that is too large leaves nothing of the number, unless it
-- would make the number too large as well.
def exponent? (p : Parts) (cs : List Char) : Option (Parts × List Char) :=
  match cs with
  | [] => some (p, [])
  | c :: rest =>
    if c = 'e' || c = 'E' then
      let (negative, rest) := exponentSign rest
      let (digits, rest) := spanDigits rest
      if digits.isEmpty then none
      else
        let n := Nat.ofDigitChars 10 digits 0
        if n < exponentLimit then
          some (⟨p.significand, if negative then p.exponent - n else p.exponent + n, false⟩, rest)
        else if p.significand ≠ 0 && !negative then none
        else some (⟨0, 0, false⟩, rest)
    else some (p, cs)

-- The largest number that a signed word holds with a minus sign.
def signedLimit : Nat := 0x8000000000000000

def Parts.number? (p : Parts) (negative : Bool) : Option Number :=
  if p.whole && !negative then some (.natural p.significand)
  else if p.whole && 0 < p.significand && p.significand ≤ signedLimit then
    some (.negative p.significand)
  else
    (scale? (UInt64.ofNat p.significand).toFloat p.exponent).map fun f =>
      .real (if negative then -f else f)

-- The number at the front, and what follows it.
def readNumber? (cs : List Char) : Option (Number × List Char) :=
  let (negative, cs) := match cs with
    | '-' :: rest => (true, rest)
    | _ => (false, cs)
  match wholePart? cs with
  | none => none
  | some (p, cs) =>
    match fraction? p cs with
    | none => none
    | some (p, cs) =>
      match exponent? p cs with
      | none => none
      | some (p, rest) => (p.number? negative).map (·, rest)

theorem length_snd_spanDigits (cs : List Char) : (spanDigits cs).2.length ≤ cs.length := by
  rw [spanDigits]
  exact (List.dropWhile_sublist _).length_le

theorem length_wholePart? {cs rest : List Char} {p : Parts} (h : wholePart? cs = some (p, rest)) :
    rest.length < cs.length := by
  simp only [wholePart?] at h
  have happend := congrArg List.length (spanDigits_append cs)
  rw [List.length_append] at happend
  split at h
  · cases h
  · cases h
  · next hne _ =>
    cases h
    have : (spanDigits cs).1.length ≠ 0 := by simpa using hne
    omega

theorem length_fraction? {cs rest : List Char} {p q : Parts}
    (h : fraction? p cs = some (q, rest)) : rest.length ≤ cs.length := by
  unfold fraction? at h
  split at h
  · next tail =>
    simp only at h
    split at h
    · cases h
    · cases h
      exact Nat.le_succ_of_le (length_snd_spanDigits tail)
  · cases h
    exact Nat.le_refl _

theorem length_snd_exponentSign (cs : List Char) : (exponentSign cs).2.length ≤ cs.length := by
  unfold exponentSign
  split <;> simp

theorem length_exponent? {cs rest : List Char} {p q : Parts}
    (h : exponent? p cs = some (q, rest)) : rest.length ≤ cs.length := by
  unfold exponent? at h
  split at h
  · cases h
    exact Nat.le_refl _
  · next c tail =>
    have hle : (spanDigits (exponentSign tail).2).2.length ≤ tail.length :=
      Nat.le_trans (length_snd_spanDigits _) (length_snd_exponentSign _)
    split at h
    · simp only at h
      split at h
      · cases h
      · split at h
        · cases h
          exact Nat.le_succ_of_le hle
        · split at h
          · cases h
          · cases h
            exact Nat.le_succ_of_le hle
    · cases h
      exact Nat.le_refl _

theorem length_readNumber? {cs rest : List Char} {n : Number}
    (h : readNumber? cs = some (n, rest)) : rest.length < cs.length := by
  unfold readNumber? at h
  have key : ∀ (negative : Bool) (tail : List Char), tail.length ≤ cs.length →
      (match wholePart? tail with
        | none => none
        | some (p, cs) =>
          match fraction? p cs with
          | none => none
          | some (p, cs) =>
            match exponent? p cs with
            | none => none
            | some (p, rest) => (p.number? negative).map (·, rest)) = some (n, rest) →
      rest.length < cs.length := by
    intro negative tail htail h
    split at h
    · cases h
    · next hw =>
      split at h
      · cases h
      · next hf =>
        split at h
        · cases h
        · next he =>
          obtain ⟨_, _, heq⟩ := Option.map_eq_some_iff.mp h
          cases heq
          have h1 := length_wholePart? hw
          have h2 := length_fraction? hf
          have h3 := length_exponent? he
          omega
  split at h
  next heq =>
  split at heq
  · cases heq
    exact key _ _ (by simp) h
  · cases heq
    exact key _ _ (Nat.le_refl _) h

end Cruciverb.Json
