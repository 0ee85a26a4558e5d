import Cruciverb.Answer.Format
import Cruciverb.Grid.Shape
import Cruciverb.Import.Error
import Cruciverb.Table
import Cruciverb.Text.Caseless

namespace Cruciverb.Import

open Cruciverb.Answer Cruciverb.Text

structure CompositeId where
  primary : Nat
  -- the direction only where it is spelled out
  children : List (Nat × Option Direction)
  deriving DecidableEq, Repr

-- One answer of the sequence.
structure Member where
  id : Nat
  direction : Direction
  length : Nat
  deriving DecidableEq, Repr

def isComposite (number : List Char) : Bool := number.contains ','

namespace CompositeId

def directionWords : List (List Char × Unit) := [("across".toList, ()), ("down".toList, ())]

-- The direction behind an id. A word that is a direction only after case folding is let through,
-- but names none.
def readDirection? (cs : List Char) : Option (Option Direction) :=
  let word := cs.dropWhile isBlank
  if (cs.takeWhile isBlank).isEmpty then none
  else
    match dropAnyWord? fold directionWords word with
    | some (_, []) => some (Direction.ofName? (String.ofList word))
    | _ => none

def readPiece? (cs : List Char) : Option (Nat × Option Direction) :=
  let (digits, rest) := spanDigits (trim cs)
  match readNumeral? idLimit digits with
  | none => none
  | some id =>
    if rest.isEmpty then some (id, none) else (readDirection? rest).map (id, ·)

def readPieces? : List (List Char) → Option (List (Nat × Option Direction))
  | [] => some []
  | piece :: pieces =>
    match readPiece? piece, readPieces? pieces with
    | some p, some ps => some (p :: ps)
    | _, _ => none

-- A direction behind the first id has no meaning.
def read (number : List Char) : Except Error CompositeId :=
  match readPieces? (number.splitOn ',') with
  | some ((primary, _) :: children) => .ok ⟨primary, children⟩
  | _ => .error (.unparseableClueId (String.ofList number))

end CompositeId

-- The answer of an id in a direction.
def member (answers : Table (Starts Nat)) (id : Nat) (d : Direction) : Except Error Member :=
  match (answers.get? id).bind (·.get d) with
  | some length => .ok ⟨id, d, length⟩
  | none => .error (.unknownAnswer id d)

-- An id with answers in both directions is taken to run as the first one does, unless the
-- direction is spelled out.
def childMember (answers : Table (Starts Nat)) (d : Direction) (child : Nat × Option Direction) :
    Except Error Member :=
  match answers.get? child.1 with
  | none => .error (.unknownAnswer child.1 d)
  | some starts =>
    match child.2 with
    | some explicit => member answers child.1 explicit
    | none =>
      if starts.count = 2 then member answers child.1 d
      else
        match starts.only? with
        | some only => member answers child.1 only
        | none => .error (.unknownAnswer child.1 d)

def childMembers (answers : Table (Starts Nat)) (d : Direction) :
    List (Nat × Option Direction) → Except Error (List Member)
  | [] => .ok []
  | child :: children =>
    match childMember answers d child with
    | .error e => .error e
    | .ok m =>
      match childMembers answers d children with
      | .error e => .error e
      | .ok ms => .ok (m :: ms)

-- The answers that a composite id names, in sequence.
def resolve (answers : Table (Starts Nat)) (d : Direction) (composite : CompositeId) :
    Except Error (List Member) :=
  match member answers composite.primary d with
  | .error e => .error e
  | .ok first =>
    match childMembers answers d composite.children with
    | .error e => .error e
    | .ok rest => .ok (first :: rest)

def Member.label (m : Member) : String := toString m.id ++ " " ++ m.direction.name

-- The direction is spelled out only where the id alone would not tell it.
def Member.reference (answers : Table (Starts Nat)) (m : Member) : String :=
  if (answers.get? m.id).map Starts.count = some 1 then toString m.id else m.label

-- What is put in front of the text of the first answer's clue.
def prefixText (answers : Table (Starts Nat)) (sequence : List Member) : String :=
  "," ++ ",".intercalate (sequence.tail.map (Member.reference answers))

-- A length with the separator before it.
abbrev Segment := Separator × UInt64

-- The first length has no separator before it, and the one put there is never used.
def segments (f : Format) : List Segment := (Separator.comma :: f.gaps).zip f.parts

def Segment.format (block : List Segment) : Format where
  parts := block.map (·.2)
  gaps := block.tail.map (·.1)
  gaps_length := by simp

-- The segments that fill what remains of one answer, and those behind them.
def fill (clue : String) (m : Member) : (remaining : Nat) → List Segment →
    Except Error (List Segment × List Segment)
  | remaining, [] =>
    if remaining = 0 then .ok ([], []) else .error (.formatExhausted clue m.id m.direction)
  | remaining, (gap, n) :: rest =>
    if remaining = 0 then .ok ([], (gap, n) :: rest)
    else if remaining < n.toNat then
      .error (.formatOvershoot clue n.toNat remaining m.id m.direction)
    else
      match fill clue m (remaining - n.toNat) rest with
      | .error e => .error e
      | .ok (block, behind) => .ok ((gap, n) :: block, behind)

def fillAll (clue : String) : List Member → List Segment → Except Error (List Format)
  | [], [] => .ok []
  | [], rest => .error (.formatLeftover clue (rest.map (·.2.toNat)))
  | m :: ms, segments =>
    match fill clue m m.length segments with
    | .error e => .error e
    | .ok (block, behind) =>
      match fillAll clue ms behind with
      | .error e => .error e
      | .ok formats => .ok (Segment.format block :: formats)

-- The format of each answer of the sequence.
def distribute (clue : String) (f : Format) (sequence : List Member) :
    Except Error (List Format) :=
  fillAll clue sequence (segments f)

end Cruciverb.Import
