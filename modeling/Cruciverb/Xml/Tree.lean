import Cruciverb.Import.Error
import Cruciverb.Text.Blank
import Cruciverb.Text.Replace
import Cruciverb.Xml.Event

namespace Cruciverb.Xml

open Cruciverb.Import Cruciverb.Text

structure Heading where
  name : String
  -- the names from the root down, with dots between them
  path : String
  attributes : Attributes
  deriving DecidableEq, Repr

inductive Node where
  | element (heading : Heading) (children : List Node)
  | text (s : String)

structure Element where
  heading : Heading
  children : List Node

namespace Element

def name (e : Element) : String := e.heading.name

def path (e : Element) : String := e.heading.path

def node (e : Element) : Node := .element e.heading e.children

end Element

-- An element that is still open, its children so far with the last one first.
structure Frame where
  heading : Heading
  done : List Node

def Frame.close (f : Frame) : Element := ⟨f.heading, f.done.reverse⟩

-- Paths go on from that of the innermost open element.
def headingIn (stack : List Frame) (name : String) (attributes : Attributes) : Heading :=
  match stack with
  | [] => ⟨name, name, attributes⟩
  | f :: _ => ⟨name, f.heading.path ++ "." ++ name, attributes⟩

-- Adds a node to the innermost open element. Outside of all elements it is lost.
def push (node : Node) : List Frame → List Frame
  | [] => []
  | f :: stack => { f with done := node :: f.done } :: stack

-- The first element that no other holds is the root.
def settle (stack : List Frame) (root : Option Element) (e : Element) : Option Element :=
  match stack, root with
  | [], none => some e
  | _, _ => root

def build : (stack : List Frame) → (root : Option Element) → List Event →
    Except XmlFlaw Element
  | [], none, [] => .error .noRoot
  | [], some root, [] => .ok root
  | f :: _, _, [] => .error (.unclosed f.heading.path)
  | stack, root, .start name attributes :: rest =>
    build (⟨headingIn stack name attributes, []⟩ :: stack) root rest
  | stack, root, .empty name attributes :: rest =>
    let e : Element := ⟨headingIn stack name attributes, []⟩
    build (push e.node stack) (settle stack root e) rest
  | [], root, .stop :: rest => build [] root rest
  | f :: stack, root, .stop :: rest =>
    build (push f.close.node stack) (settle stack root f.close) rest
  | stack, root, .text s :: rest => build (push (.text s) stack) root rest
  | stack, root, .cdata s :: rest => build (push (.text s) stack) root rest

-- The document element of the events.
def Element.ofEvents (events : List Event) : Except XmlFlaw Element := build [] none events

def italicOpen : Char := '\uE000'

def italicClose : Char := '\uE001'

def italicTag : List Char := "<i>".toList

def italicEndTag : List Char := "</i>".toList

-- Italics are marked by characters of private use until the text is taken out of its elements, and
-- line breaks become spaces.
def protect (cs : List Char) : List Char :=
  let cs := replace italicTag [italicOpen] cs
  let cs := replace italicEndTag [italicClose] cs
  let cs := replace "<br/>".toList [' '] cs
  let cs := replace "<br />".toList [' '] cs
  replace "<br>".toList [' '] cs

def restore (c : Char) : List Char :=
  if c = italicOpen then italicTag else if c = italicClose then italicEndTag else [c]

def Element.read (s : String) : Except XmlFlaw Element :=
  match Event.read? (protect s.toList) with
  | none => .error .notWellFormed
  | some events => Element.ofEvents events

mutual

-- All text in a node, in document order.
def Node.letters : Node → List Char
  | .text s => s.toList
  | .element _ children => lettersOf children

def lettersOf : List Node → List Char
  | [] => []
  | node :: rest => node.letters ++ lettersOf rest

end

namespace Element

-- The text of an element and all below it, on one line, with italics as tags again.
def textContent (e : Element) : String :=
  String.ofList ((collapse (lettersOf e.children)).flatMap restore)

def childrenNamed (e : Element) (name : String) : List Element :=
  e.children.filterMap fun
    | .element heading children =>
      if heading.name = name then some ⟨heading, children⟩ else none
    | .text _ => none

def hasChild (e : Element) (name : String) : Bool := !(e.childrenNamed name).isEmpty

def optionalChild (e : Element) (name : String) : Except Error (Option Element) :=
  match e.childrenNamed name with
  | [] => .ok none
  | [child] => .ok (some child)
  | children => .error (.duplicateElement (e.path ++ "." ++ name) children.length)

def child (e : Element) (name : String) : Except Error Element :=
  match e.optionalChild name with
  | .error error => .error error
  | .ok (some child) => .ok child
  | .ok none => .error (.missingElement (e.path ++ "." ++ name))

def attr? (e : Element) (name : String) : Option String :=
  (e.heading.attributes.find? (·.1 == name)).map (·.2)

def attr (e : Element) (name : String) : Except Error String :=
  match e.attr? name with
  | some value => .ok value
  | none => .error (.missingAttribute e.path name)

-- The number that an attribute holds. One plus sign may stand before it, and blanks around it.
def readUnsigned? (limit : Nat) (cs : List Char) : Option Nat :=
  match cs with
  | '+' :: digits => readNumeral? limit digits
  | digits => readNumeral? limit digits

def number (e : Element) (limit : Nat) (name : String) : Except Error Nat :=
  match e.attr name with
  | .error error => .error error
  | .ok value =>
    match readUnsigned? limit (trim value.toList) with
    | some n => .ok n
    | none => .error (.invalidAttribute e.path name value)

end Element

end Cruciverb.Xml
