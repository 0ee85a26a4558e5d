import Cruciverb.Decimal.Shortest
import Cruciverb.Json.Basic

namespace Cruciverb.Json

def hexDigit (n : Nat) : Char := Nat.digitChar n

-- Quotes, backslashes and controls are escaped, and nothing else.
def escape (c : Char) : List Char :=
  if c = '"' then ['\\', '"']
  else if c = '\\' then ['\\', '\\']
  else if c = '\x08' then ['\\', 'b']
  else if c = '\x0c' then ['\\', 'f']
  else if c = '\n' then ['\\', 'n']
  else if c = '\r' then ['\\', 'r']
  else if c = '\t' then ['\\', 't']
  else if c.toNat < 32 then
    ['\\', 'u', '0', '0', hexDigit (c.toNat / 16), hexDigit (c.toNat % 16)]
  else [c]

def quoted (s : String) : List Char := '"' :: s.toList.flatMap escape ++ ['"']

-- Positional from 1e-5 up to 1e16, and with a digit behind the point; a signed exponent beyond.
def decimalText (d : Decimal) : List Char :=
  let digits := Nat.toDigits 10 d.digits
  let scale := d.exponent + digits.length - 1
  if scale < -5 || 15 < scale then
    let mantissa :=
      match digits with
      | first :: next :: rest => first :: '.' :: next :: rest
      | _ => digits
    let sign := if scale < 0 then '-' else '+'
    mantissa ++ 'e' :: sign :: Nat.toDigits 10 scale.natAbs
  else if 0 ≤ d.exponent then digits ++ List.replicate d.exponent.toNat '0' ++ ['.', '0']
  else if 0 ≤ scale then
    let whole := (scale + 1).toNat
    digits.take whole ++ '.' :: digits.drop whole
  else '0' :: '.' :: List.replicate (-scale - 1).toNat '0' ++ digits

def Number.text : Number → List Char
  | .natural n => Nat.toDigits 10 n
  | .negative n => '-' :: Nat.toDigits 10 n
  | .real x =>
    let sign := if x.toBits < 0x8000000000000000 then [] else ['-']
    let digits := if x == 0 then ['0', '.', '0'] else decimalText (Decimal.ofFloat x)
    sign ++ digits

mutual

def text : Json → List Char
  | .null => "null".toList
  | .bool true => "true".toList
  | .bool false => "false".toList
  | .number n => n.text
  | .string s => quoted s
  | .array items => '[' :: itemsText items ++ [']']
  | .object members => '\x7b' :: membersText members ++ ['\x7d']

def itemsText : List Json → List Char
  | [] => []
  | [item] => text item
  | item :: rest => text item ++ ',' :: itemsText rest

def membersText : List (String × Json) → List Char
  | [] => []
  | [(key, value)] => quoted key ++ ':' :: text value
  | (key, value) :: rest => quoted key ++ ':' :: text value ++ ',' :: membersText rest

end

def compact (v : Json) : String := String.ofList v.text

end Cruciverb.Json
