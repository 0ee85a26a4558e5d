import Cruciverb.Text.Blank
import Cruciverb.Text.Numeral
import Cruciverb.Text.Quoted

namespace Cruciverb

open Cruciverb.Text

structure PublicationDate where
  year : Int
  month : Nat
  day : Nat
  deriving DecidableEq, Repr

namespace PublicationDate

def isLeap (year : Int) : Bool := year % 4 == 0 && (year % 100 != 0 || year % 400 == 0)

def daysIn (year : Int) (month : Nat) : Nat :=
  if month = 2 then if isLeap year then 29 else 28
  else if month = 4 || month = 6 || month = 9 || month = 11 then 30
  else 31

-- A day of the calendar.
def Real (d : PublicationDate) : Prop :=
  1 ≤ d.month ∧ d.month ≤ 12 ∧ 1 ≤ d.day ∧ d.day ≤ daysIn d.year d.month

instance (d : PublicationDate) : Decidable d.Real := inferInstanceAs (Decidable (_ ∧ _))

inductive Error where
  | endOfInput
  | invalidCharacter
  | outOfRange
  | trailingInput
  deriving DecidableEq, Repr

def Error.message : Error → String
  | .endOfInput => "premature end of input"
  | .invalidCharacter => "input contains invalid characters"
  | .outOfRange => "input is out of range"
  | .trailingInput => "trailing input"

-- A number of at least one digit and at most `width` digits, and what follows it.
def number (width : Nat) (cs : List Char) : Except Error (Nat × List Char) :=
  match cs with
  | [] => .error .endOfInput
  | c :: _ =>
    if c.isDigit then
      let digits := (cs.take width).takeWhile Char.isDigit
      .ok (Nat.ofDigitChars 10 digits 0, cs.drop digits.length)
    else .error .invalidCharacter

-- Only a sign lets a year have more than four digits.
def yearNumber (cs : List Char) : Except Error (Int × List Char) :=
  match cs with
  | '-' :: cs => (number cs.length cs).map fun (n, rest) => (-(n : Int), rest)
  | '+' :: cs => (number cs.length cs).map fun (n, rest) => ((n : Int), rest)
  | cs => (number 4 cs).map fun (n, rest) => ((n : Int), rest)

def slash : List Char → Except Error (List Char)
  | [] => .error .endOfInput
  | c :: rest => if c = '/' then .ok rest else .error .invalidCharacter

-- The years that the calendar reaches.
def firstYear : Int := -262143

def lastYear : Int := 262142

-- A sign is followed by a number of the machine's size.
def checkYear (year : Int) : Except Error Unit :=
  if -0x80000000 ≤ year ∧ year < 0x80000000 then .ok () else .error .outOfRange

-- A month or day is refused as soon as it is read; whether the month has the day is asked when
-- nothing is left over.
def readFields (cs : List Char) : Except Error PublicationDate := do
  let (year, cs) ← yearNumber (trimStart cs)
  checkYear year
  let cs ← slash cs
  let (month, cs) ← number 2 (trimStart cs)
  if month < 1 || 12 < month then throw .outOfRange
  let cs ← slash cs
  let (day, cs) ← number 2 (trimStart cs)
  if day < 1 || 31 < day then throw .outOfRange
  if !cs.isEmpty then throw .trailingInput
  let date : PublicationDate := ⟨year, month, day⟩
  if date.Real ∧ firstYear ≤ year ∧ year ≤ lastYear then return date else throw .outOfRange

def padded (width n : Nat) : List Char :=
  let digits := Nat.toDigits 10 n
  List.replicate (width - digits.length) '0' ++ digits

-- A year outside the four digits has its sign.
def yearText (year : Int) : List Char :=
  if year < 0 then '-' :: padded 4 year.natAbs
  else if 9999 < year then '+' :: padded 4 year.natAbs
  else padded 4 year.natAbs

def text (d : PublicationDate) : String :=
  String.ofList (yearText d.year ++ '/' :: padded 2 d.month ++ '/' :: padded 2 d.day)

def read (s : String) : Except Error PublicationDate := readFields (trim s.toList)

def refusal (s : String) (e : Error) : String :=
  "expected a date like 2020/01/31, got " ++ String.ofList (quoted s.toList) ++
    " (" ++ e.message ++ ")"

-- The full form of a date, or why there is none.
def normalize (s : String) : Except String String :=
  match read s with
  | .ok date => .ok date.text
  | .error e => .error (refusal s e)

end PublicationDate

end Cruciverb
