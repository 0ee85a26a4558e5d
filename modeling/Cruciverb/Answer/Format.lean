import Cruciverb.Answer.Phrase
import Cruciverb.Text.Blank
import Cruciverb.Text.Numeral

namespace Cruciverb.Answer

open Cruciverb.Text

abbrev Format := Phrase UInt64

inductive FormatError where
  | notNumeral (piece : String)
  | tooLarge (piece : String)
  deriving DecidableEq, Repr

def FormatError.message : FormatError → String
  | .notNumeral piece => "bad length '" ++ piece ++ "'"
  | .tooLarge piece => "bad length '" ++ piece ++ "': number too large to fit in target type"

def readLength (piece : List Char) : Except FormatError UInt64 :=
  if isNumeral piece then
    match readNumeral? wordLimit piece with
    | some n => .ok (UInt64.ofNat n)
    | none => .error (.tooLarge (String.ofList piece))
  else .error (.notNumeral (String.ofList piece))

-- The first piece that is no length decides the error.
def readLengths : List (List Char) → Except FormatError (List UInt64)
  | [] => .ok []
  | piece :: pieces =>
    match readLength (trim piece) with
    | .error e => .error e
    | .ok n =>
      match readLengths pieces with
      | .error e => .error e
      | .ok ns => .ok (n :: ns)

theorem length_readLengths {pieces : List (List Char)} {ns : List UInt64}
    (h : readLengths pieces = .ok ns) : ns.length = pieces.length := by
  induction pieces generalizing ns with
  | nil => cases h; rfl
  | cons piece pieces ih =>
    simp only [readLengths] at h
    split at h
    · cases h
    · split at h
      · cases h
      · next hns =>
        cases h
        simp [ih hns]

end Cruciverb.Answer

namespace Cruciverb.Machine

open Cruciverb.Answer

-- The lengths are added up one after the other.
def sum (lengths : List UInt64) : Option Nat := lengths.foldlM (fun sum n => add sum n.toNat) 0

-- What stands in front of the piece with number `i`. The separators are looked up by these numbers.
def front (gaps : List Separator) (i : Nat) : Option (List Char) :=
  if i = 0 then some [] else (gaps[i - 1]?).map fun gap => [gap.char]

-- The pieces from the one with number `i` on. Where they stop is added up on the way, and a piece that
-- reaches past the end is cut short.
def weaveFrom (letters : List Char) (gaps : List Separator) : (i : Nat) → (pos : Nat) →
    (lengths : List UInt64) → Option (List Char)
  | _, _, [] => some []
  | i, pos, n :: ns => do
    let gap ← front gaps i
    let behind ← add pos n.toNat
    let stop := min behind letters.length
    let start := min pos stop
    let more ← weaveFrom letters gaps (i + 1) behind ns
    some (gap ++ (letters.take stop).drop start ++ more)

def apply (lengths : List UInt64) (gaps : List Separator) (letters : List Char) :
    Option (List Char) := weaveFrom letters gaps 0 0 lengths

end Cruciverb.Machine

namespace Cruciverb.Answer.Format

open Cruciverb.Text

def read (cs : List Char) : Except FormatError Format :=
  let pieces := split (trim cs)
  match h : readLengths pieces.parts with
  | .error e => .error e
  | .ok ns => .ok ⟨ns, pieces.gaps, by rw [length_readLengths h, pieces.gaps_length]⟩

def ofString (s : String) : Except FormatError Format := read s.toList

def text (f : Format) : List Char := (Phrase.map (fun n => (toString n.toNat).toList) f).text

-- The lengths added up, unless the sum is no machine word.
def total? (f : Format) : Option Nat := Machine.sum f.parts

-- The letters cut into words of the format's lengths, with its separators between them.
def applied? (f : Format) (letters : List Char) : Option (List Char) :=
  Machine.apply f.parts f.gaps letters

-- Every gap a comma.
def ofLengths (ns : List UInt64) : Format where
  parts := ns
  gaps := List.replicate (ns.length - 1) .comma
  gaps_length := by simp

end Cruciverb.Answer.Format
