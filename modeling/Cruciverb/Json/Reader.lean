import Cruciverb.Json.Token

namespace Cruciverb.Json

-- What is open: an array with the items it has so far, the last one first, or an object that waits
-- for the value of a key.
inductive Frame where
  | items (done : List Json)
  | members (done : List (String × Json)) (key : String)

-- The members are kept in the order of their keys; a later member wins over an earlier one of the
-- same key.
def putMember (key : String) (v : Json) : List (String × Json) → List (String × Json)
  | [] => [(key, v)]
  | (k, w) :: rest =>
    if key < k then (key, v) :: (k, w) :: rest
    else if key = k then (key, v) :: rest
    else (k, w) :: putMember key v rest

-- Values lie inside one another this deep at the most.
def deepest : Nat := 127

mutual

-- A value is expected next.
def expectValue (stack : List Frame) : List Token → Option Json
  | .string s :: rest => closeValue stack (.string s) rest
  | .scalar v :: rest => closeValue stack v rest
  | .openArray :: .closeArray :: rest =>
    if stack.length < deepest then closeValue stack (.array []) rest else none
  | .openArray :: rest =>
    if stack.length < deepest then expectValue (.items [] :: stack) rest else none
  | .openObject :: .closeObject :: rest =>
    if stack.length < deepest then closeValue stack (.object []) rest else none
  | .openObject :: .string key :: .colon :: rest =>
    if stack.length < deepest then expectValue (.members [] key :: stack) rest else none
  | _ => none

-- A value has been read.
def closeValue (stack : List Frame) (v : Json) : List Token → Option Json
  | [] =>
    match stack with
    | [] => some v
    | _ => none
  | .comma :: .string key :: .colon :: rest =>
    match stack with
    | .members done k :: stack => expectValue (.members (putMember k v done) key :: stack) rest
    | _ => none
  | .comma :: rest =>
    match stack with
    | .items done :: stack => expectValue (.items (v :: done) :: stack) rest
    | _ => none
  | .closeArray :: rest =>
    match stack with
    | .items done :: stack => closeValue stack (.array (v :: done).reverse) rest
    | _ => none
  | .closeObject :: rest =>
    match stack with
    | .members done k :: stack => closeValue stack (.object (putMember k v done)) rest
    | _ => none
  | _ => none

end

-- None for a text that is no JSON.
def read? (s : String) : Option Json :=
  match tokens? s.toList with
  | some tokens => expectValue [] tokens
  | none => none

end Cruciverb.Json
