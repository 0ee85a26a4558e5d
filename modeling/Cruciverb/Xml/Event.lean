import Cruciverb.Text.Numeral
import Cruciverb.Xml.Token

namespace Cruciverb.Xml

open Cruciverb.Text

abbrev Attributes := List (String × String)

inductive Event where
  | start (name : String) (attributes : Attributes)
  | empty (name : String) (attributes : Attributes)
  | stop
  | text (s : String)
  -- text in which entities have no meaning
  | cdata (s : String)
  deriving DecidableEq, Repr

def entities : List (List Char × Char) :=
  [("lt".toList, '<'), ("gt".toList, '>'), ("amp".toList, '&'), ("apos".toList, '\''),
    ("quot".toList, '"')]

def hexValue? (c : Char) : Option Nat :=
  if c.isDigit then some (c.toNat - 48)
  else if 'a' ≤ c && c ≤ 'f' then some (c.toNat - 87)
  else if 'A' ≤ c && c ≤ 'F' then some (c.toNat - 55)
  else none

def readHex? : (n : Nat) → List Char → Option Nat
  | n, [] => some n
  | n, c :: cs => (hexValue? c).bind fun d => readHex? (n * 16 + d) cs

-- The character of a number; a surrogate is none, and neither is zero.
def charOfNumber? (n : Nat) : Option Char :=
  if n ≠ 0 && n.isValidChar then some (Char.ofNat n) else none

-- A reference by number, behind its number sign.
def numberedChar? (cs : List Char) : Option Char :=
  match cs with
  | 'x' :: digits => if digits.isEmpty then none else (readHex? 0 digits).bind charOfNumber?
  | digits => (readNumeral? idLimit digits).bind charOfNumber?

def entity? (cs : List Char) : Option Char :=
  match cs with
  | '#' :: number => numberedChar? number
  | name => (entities.find? (·.1 == name)).map (·.2)

-- `name` holds what has been read of a reference, the last character first.
def resolveFrom (name : Option (List Char)) : List Char → Option (List Char)
  | [] =>
    match name with
    | none => some []
    | some _ => none
  | c :: cs =>
    match name with
    | none => if c = '&' then resolveFrom (some []) cs else (resolveFrom none cs).map (c :: ·)
    | some read =>
      if c = ';' then
        match entity? read.reverse with
        | none => none
        | some e => (resolveFrom none cs).map (e :: ·)
      else if c = '&' then none
      else resolveFrom (some (c :: read)) cs

-- The text with its references resolved; none if one is unknown or not closed.
def resolve? (cs : List Char) : Option (List Char) := resolveFrom none cs

-- The part of a name behind its first colon.
def localName (name : List Char) : List Char :=
  match name.dropWhile (· ≠ ':') with
  | [] => name
  | _ :: rest => rest

structure RawAttribute where
  name : List Char
  value : List Char

-- The attribute at the front of a text that begins with no space, and what follows it.
def attribute? (cs : List Char) : Option (RawAttribute × List Char) :=
  match cs with
  | [] => none
  | c :: cs =>
    let inName := fun d => d ≠ '=' && !isSpace d
    match (cs.dropWhile inName).dropWhile isSpace with
    | '=' :: rest =>
      match rest.dropWhile isSpace with
      | quote :: rest =>
        if quote = '"' || quote = '\'' then
          match rest.dropWhile (· ≠ quote) with
          | _ :: behind => some (⟨c :: cs.takeWhile inName, rest.takeWhile (· ≠ quote)⟩, behind)
          | [] => none
        else none
      | [] => none
    | _ => none

theorem length_dropWhile_le {p : Char → Bool} (cs : List Char) :
    (cs.dropWhile p).length ≤ cs.length := (List.dropWhile_sublist p).length_le

theorem length_attribute? {cs rest : List Char} {a : RawAttribute}
    (h : attribute? cs = some (a, rest)) : rest.length < cs.length := by
  unfold attribute? at h
  split at h
  · cases h
  · next c cs =>
    simp only at h
    split at h
    · next r1 h1 =>
      split at h
      · next q r2 h2 =>
        split at h
        · split at h
          · next r3 h3 =>
            cases h
            have l1 := congrArg List.length h1
            have l2 := congrArg List.length h2
            have l3 := congrArg List.length h3
            have d1 := length_dropWhile_le (p := isSpace)
              (cs.dropWhile fun d => decide (d ≠ '=') && !isSpace d)
            have d1' := length_dropWhile_le (p := fun d => decide (d ≠ '=') && !isSpace d) cs
            have d2 := length_dropWhile_le (p := isSpace) r1
            have d3 := length_dropWhile_le (p := fun d => decide (d ≠ q)) r2
            simp only [List.length_cons] at *
            omega
          · cases h
        · cases h
      · cases h
    · cases h

-- All attributes of a tag.
def rawAttributes? (cs : List Char) : Option (List RawAttribute) :=
  match _cut : cs.dropWhile isSpace with
  | [] => some []
  | c :: inner =>
    match _read : attribute? (c :: inner) with
    | none => none
    | some (a, rest) => (rawAttributes? rest).map (a :: ·)
  termination_by cs.length
  decreasing_by
    have h1 := length_attribute? _read
    have h2 := length_dropWhile_le (p := isSpace) cs
    rw [_cut] at h2
    omega

-- Names of namespaces say nothing about the element.
def isNamespace (name : List Char) : Bool :=
  name == "xmlns".toList || "xmlns:".toList.isPrefixOf name

-- Of two attributes with the same local name the later counts.
def putAttribute (name value : String) (attributes : Attributes) : Attributes :=
  attributes.filter (·.1 ≠ name) ++ [(name, value)]

-- `done` holds what has been read so far.
def resolveAttributes? (done : Attributes) : List RawAttribute → Option Attributes
  | [] => some done
  | a :: rest =>
    if isNamespace a.name then resolveAttributes? done rest
    else
      match resolve? a.value with
      | none => none
      | some value =>
        let name := String.ofList (localName a.name)
        resolveAttributes? (putAttribute name (String.ofList value) done) rest

-- No attribute is given twice under the same full name.
def attributes? (cs : List Char) : Option Attributes :=
  match rawAttributes? cs with
  | none => none
  | some raw =>
    if (raw.map RawAttribute.name).Nodup then resolveAttributes? [] raw else none

structure Tag where
  -- with its namespace
  fullName : List Char
  attributes : Attributes

namespace Tag

def name (t : Tag) : String := String.ofList (localName t.fullName)

def read? (content : List Char) : Option Tag :=
  (attributes? (content.dropWhile (!isSpace ·))).map (⟨content.takeWhile (!isSpace ·), ·⟩)

end Tag

-- The name in an end tag; spaces behind it do not matter.
def closedName (content : List Char) : List Char :=
  let name := (content.reverse.dropWhile isSpace).reverse
  if name.isEmpty then content else name

namespace Event

-- `opened` holds the full names of the elements that are open, the innermost first.
def ofTokens? : (opened : List (List Char)) → List Token → Option (List Event)
  | _, [] => some []
  | opened, .aside :: rest => ofTokens? opened rest
  | opened, .text cs :: rest =>
    match resolve? cs with
    | none => none
    | some s => (ofTokens? opened rest).map (.text (String.ofList s) :: ·)
  | opened, .cdata cs :: rest => (ofTokens? opened rest).map (.cdata (String.ofList cs) :: ·)
  | opened, .close content :: rest =>
    match opened with
    | [] => none
    | name :: opened =>
      if closedName content = name then (ofTokens? opened rest).map (.stop :: ·) else none
  | opened, .open content :: rest =>
    if content.getLast? = some '/' then
      match Tag.read? content.dropLast with
      | none => none
      | some tag => (ofTokens? opened rest).map (.empty tag.name tag.attributes :: ·)
    else
      match Tag.read? content with
      | none => none
      | some tag =>
        (ofTokens? (tag.fullName :: opened) rest).map (.start tag.name tag.attributes :: ·)

-- A mark of the byte order in front of the text is dropped.
def dropByteOrderMark (cs : List Char) : List Char :=
  match cs with
  | '\uFEFF' :: rest => rest
  | _ => cs

-- The events of a whole text, unless it breaks a rule of the format.
def read? (cs : List Char) : Option (List Event) :=
  (tokens? (dropByteOrderMark cs)).bind (ofTokens? [])

end Event

end Cruciverb.Xml
