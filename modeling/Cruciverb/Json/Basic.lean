namespace Cruciverb

inductive Json.Number where
  -- below 2 ^ 64
  | natural (n : Nat)
  -- `-n`, for an `n` from 1 to 2 ^ 63
  | negative (n : Nat)
  -- every other number
  | real (x : Float)

inductive Json where
  | null
  | bool (b : Bool)
  | number (n : Json.Number)
  | string (s : String)
  | array (items : List Json)
  | object (members : List (String × Json))

namespace Json

def nat (n : Nat) : Json := .number (.natural n)

def member? (key : String) : Json → Option Json
  | .object members => (members.find? (·.1 == key)).map (·.2)
  | _ => none

def asNat? : Json → Option Nat
  | .number (.natural n) => some n
  | _ => none

def asString? : Json → Option String
  | .string s => some s
  | _ => none

def asArray? : Json → Option (List Json)
  | .array items => some items
  | _ => none

end Json

end Cruciverb
