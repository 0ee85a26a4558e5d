namespace Cruciverb

-- The number `digits * 10 ^ exponent`.
structure Decimal where
  digits : Nat
  exponent : Int
  deriving DecidableEq, Repr

namespace Decimal

-- A positive binary fraction, the quotient of the first two, with the ends of the interval of
-- numbers that are rounded to it over the same denominator. The ends belong to it if `closed`.
structure Interval where
  value : Nat
  denominator : Nat
  low : Nat
  high : Nat
  closed : Bool

-- The interval of `m * 2 ^ q`; below a power of two the neighbours stand half as far apart.
def Interval.of (m : Nat) (q : Int) (nearBelow : Bool) : Interval :=
  let up := Nat.pow 2 q.toNat
  let down := Nat.pow 2 (-q).toNat
  { value := 4 * m * up
    denominator := 4 * down
    low := (4 * m - (if nearBelow then 1 else 2)) * up
    high := (4 * m + 2) * up
    closed := m % 2 == 0 }

-- Whether `d * 10 ^ k` lies in the interval.
def Interval.has (i : Interval) (d : Nat) (k : Int) : Bool :=
  let point := d * Nat.pow 10 k.toNat * i.denominator
  let scale := Nat.pow 10 (-k).toNat
  if i.closed then i.low * scale ≤ point && point ≤ i.high * scale
  else i.low * scale < point && point < i.high * scale

-- How many places the number has before its point; zero or less for a number below one tenth.
def places (value denominator : Nat) : Int :=
  if denominator ≤ value then ((Nat.toDigits 10 (value / denominator)).length : Int)
  else
    let zeros := (List.range 400).takeWhile fun n => value * Nat.pow 10 (n + 1) < denominator
    Int.negOfNat zeros.length

-- The better of the two neighbours of the value on the grid of multiples of `10 ^ k`.
def Interval.onGrid? (i : Interval) (k : Int) : Option Nat :=
  let numerator := i.value * Nat.pow 10 (-k).toNat
  let divisor := i.denominator * Nat.pow 10 k.toNat
  let d := numerator / divisor
  let rest := numerator % divisor
  match i.has d k, i.has (d + 1) k with
  | true, false => some d
  | false, true => some (d + 1)
  | false, false => none
  | true, true =>
    if 2 * rest < divisor then some d
    else if divisor < 2 * rest then some (d + 1)
    else if d % 2 = 0 then some d else some (d + 1)

def stripZeros : (fuel : Nat) → Nat → Int → Decimal
  | 0, d, k => ⟨d, k⟩
  | fuel + 1, d, k => if d % 10 = 0 then stripZeros fuel (d / 10) (k + 1) else ⟨d, k⟩

-- Seventeen digits always tell two fractions apart, so the grids need not be finer.
def shortest (i : Interval) : Decimal :=
  let p := places i.value i.denominator
  let hit := (List.range' 1 17).findSome? fun (n : Nat) =>
    let k := p - n
    (i.onGrid? k).map fun d => stripZeros 17 d k
  hit.getD ⟨0, 0⟩

-- A float has 52 bits of fraction, and 11 of exponent before them.
def fractions : Nat := 0x10000000000000

-- The absolute value of a finite number other than zero.
def ofFloat (x : Float) : Decimal :=
  let bits := x.toBits.toNat
  let exponent := bits / fractions % 0x800
  let fraction := bits % fractions
  if exponent = 0 then shortest (Interval.of fraction (-1074) false)
  else shortest (Interval.of (fraction + fractions) ((exponent : Int) - 1075)
    (fraction == 0 && 1 < exponent))

end Decimal

end Cruciverb
