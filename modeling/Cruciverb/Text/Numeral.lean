namespace Cruciverb.Text

-- One digit at least, and digits only.
def isNumeral (cs : List Char) : Bool := !cs.isEmpty && cs.all Char.isDigit

-- The value of a numeral below `limit`.
def readNumeral? (limit : Nat) (cs : List Char) : Option Nat :=
  if isNumeral cs then
    let n := Nat.ofDigitChars 10 cs 0
    if n < limit then some n else none
  else none

-- Ids take 32 bits, and other numbers a machine word of 64.
def idLimit : Nat := 0x100000000

def wordLimit : Nat := 0x10000000000000000

-- The digits at the front and what follows them.
def spanDigits (cs : List Char) : List Char × List Char :=
  (cs.takeWhile Char.isDigit, cs.dropWhile Char.isDigit)

theorem spanDigits_append (cs : List Char) : (spanDigits cs).1 ++ (spanDigits cs).2 = cs :=
  List.takeWhile_append_dropWhile

theorem readNumeral?_lt {limit n : Nat} {cs : List Char} (h : readNumeral? limit cs = some n) :
    n < limit := by
  simp only [readNumeral?] at h
  split at h
  · split at h
    · cases h
      assumption
    · cases h
  · cases h

end Cruciverb.Text

namespace Cruciverb.Machine

open Cruciverb.Text

-- Numbers are machine words, and every result is checked: the machine stops where a number would leave
-- its range, and never goes on with what is left of it in 64 bits. No result stands for that.
def add (m n : Nat) : Option Nat := if m + n < wordLimit then some (m + n) else none

def sub (m n : Nat) : Option Nat := if n ≤ m then some (m - n) else none

def mul (m n : Nat) : Option Nat := if m * n < wordLimit then some (m * n) else none

section Words

variable {m n : Nat}

theorem add_eq (h : m + n < wordLimit) : add m n = some (m + n) := if_pos h

theorem add_eq_none (h : wordLimit ≤ m + n) : add m n = none := if_neg (Nat.not_lt_of_le h)

theorem sub_eq (h : n ≤ m) : sub m n = some (m - n) := if_pos h

theorem mul_eq (h : m * n < wordLimit) : mul m n = some (m * n) := if_pos h

theorem mul_eq_none (h : wordLimit ≤ m * n) : mul m n = none := if_neg (Nat.not_lt_of_le h)

end Words

end Cruciverb.Machine
