import Cruciverb.Xml.Tree

namespace Cruciverb.Xml

open Cruciverb.Import

namespace Event

-- An event as a tree keeps it: an empty element is one that ends at once, and text is text however its
-- entities were treated.
def plain : Event → List Event
  | .empty name attributes => [.start name attributes, .stop]
  | .cdata s => [.text s]
  | event => [event]

def beginsElement : Event → Bool
  | .start .. => true
  | .empty .. => true
  | _ => false

-- The names of the elements that are open behind the events, the innermost first, where `names` are open
-- in front of them. An end where nothing is open changes nothing.
def openNames (names : List String) : List Event → List String
  | [] => names
  | .start name _ :: rest => openNames (name :: names) rest
  | .stop :: rest => openNames names.tail rest
  | _ :: rest => openNames names rest

-- The events up to the end of the outermost of so many open elements.
def untilClosed : (depth : Nat) → List Event → List Event
  | 0, _ => []
  | _ + 1, [] => []
  | depth + 1, .start name attributes :: rest =>
    .start name attributes :: untilClosed (depth + 2) rest
  | depth + 1, .stop :: rest => .stop :: untilClosed depth rest
  | depth + 1, event :: rest => event :: untilClosed (depth + 1) rest

-- The events of the first element that is inside no other.
def firstElement : List Event → List Event
  | [] => []
  | .start name attributes :: rest => .start name attributes :: untilClosed 1 rest
  | .empty name attributes :: _ => [.empty name attributes]
  | _ :: rest => firstElement rest

end Event

mutual

-- The events that a node comes from, in document order.
def Node.events : Node → List Event
  | .text s => [.text s]
  | .element heading children =>
    .start heading.name heading.attributes :: (eventsOf children ++ [.stop])

def eventsOf : List Node → List Event
  | [] => []
  | node :: rest => node.events ++ eventsOf rest

end

@[simp] theorem eventsOf_append (nodes more : List Node) :
    eventsOf (nodes ++ more) = eventsOf nodes ++ eventsOf more := by
  induction nodes with
  | nil => rfl
  | cons node nodes ih => rw [List.cons_append, eventsOf, eventsOf, ih, List.append_assoc]

-- The elements in a node, each with the names from that of the node down to its own.
inductive Node.Holds : Node → List String → Element → Prop where
  | self (heading : Heading) (children : List Node) :
    Holds (.element heading children) [heading.name] ⟨heading, children⟩
  | inside {heading : Heading} {children : List Node} {child : Node} {names : List String}
      {e : Element} (hchild : child ∈ children) (h : child.Holds names e) :
    Holds (.element heading children) (heading.name :: names) e

-- What has been built when some of the events have been read.
structure Progress where
  stack : List Frame
  root : Option Element

namespace Progress

def attach (p : Progress) (e : Element) : Progress := ⟨push e.node p.stack, settle p.stack p.root e⟩

-- All that one event changes.
def step (p : Progress) : Event → Progress
  | .start name attributes =>
    { p with stack := ⟨headingIn p.stack name attributes, []⟩ :: p.stack }
  | .empty name attributes => p.attach ⟨headingIn p.stack name attributes, []⟩
  | .stop =>
    match p.stack with
    | [] => p
    | f :: stack => attach ⟨stack, p.root⟩ f.close
  | .text s => { p with stack := push (.text s) p.stack }
  | .cdata s => { p with stack := push (.text s) p.stack }

def run (p : Progress) (events : List Event) : Progress := events.foldl step p

def finish : Progress → Except XmlFlaw Element
  | ⟨[], none⟩ => .error .noRoot
  | ⟨[], some root⟩ => .ok root
  | ⟨f :: _, _⟩ => .error (.unclosed f.heading.path)

end Progress

theorem build_eq (stack : List Frame) (root : Option Element) (events : List Event) :
    build stack root events = (Progress.run ⟨stack, root⟩ events).finish := by
  fun_induction build stack root events with
  | case1 => rfl
  | case2 root => rfl
  | case3 root f stack => rfl
  | case4 stack root name attributes rest ih => exact ih
  | case5 stack root name attributes rest e ih => exact ih
  | case6 root rest ih => exact ih
  | case7 root f stack rest ih => exact ih
  | case8 stack root s rest ih => exact ih
  | case9 stack root s rest ih => exact ih

-- The names of open elements, the innermost first.
def namesOf (stack : List Frame) : List String := stack.map fun f => f.heading.name

@[simp] theorem namesOf_push (node : Node) (stack : List Frame) :
    namesOf (push node stack) = namesOf stack := by
  cases stack <;> rfl

@[simp] theorem name_headingIn (stack : List Frame) (name : String) (attributes : Attributes) :
    (headingIn stack name attributes).name = name := by
  cases stack <;> rfl

@[simp] theorem attributes_headingIn (stack : List Frame) (name : String) (attributes : Attributes) :
    (headingIn stack name attributes).attributes = attributes := by
  cases stack <;> rfl

theorem settle_some (stack : List Frame) (root e : Element) : settle stack (some root) e = some root := by
  cases stack <;> rfl

-- What the open elements have taken in, in document order.
def opened : List Frame → List Event
  | [] => []
  | f :: stack =>
    opened stack ++ .start f.heading.name f.heading.attributes :: eventsOf f.done.reverse

theorem opened_push (node : Node) (f : Frame) (stack : List Frame) :
    opened (push node (f :: stack)) = opened (f :: stack) ++ node.events := by
  simp [push, opened, eventsOf]

namespace Progress

variable {p : Progress}

theorem openNames_step (p : Progress) (event : Event) (rest : List Event) :
    Event.openNames (namesOf (p.step event).stack) rest =
      Event.openNames (namesOf p.stack) (event :: rest) := by
  cases event with
  | start name attributes => simp [step, Event.openNames, namesOf]
  | empty name attributes => simp [step, attach, Event.openNames]
  | stop =>
    obtain ⟨stack, root⟩ := p
    cases stack with
    | nil => rfl
    | cons f stack =>
      show Event.openNames (namesOf (push f.close.node stack)) rest = _
      rw [namesOf_push]
      rfl
  | text s => simp [step, Event.openNames]
  | cdata s => simp [step, Event.openNames]

theorem namesOf_run (p : Progress) (events : List Event) :
    namesOf (p.run events).stack = Event.openNames (namesOf p.stack) events := by
  induction events generalizing p with
  | nil => rfl
  | cons event rest ih => exact (ih (p.step event)).trans (openNames_step p event rest)

-- Some element has been seen.
def Begun (p : Progress) : Prop := p.stack ≠ [] ∨ p.root.isSome

theorem begun_step (p : Progress) (event : Event) :
    (p.step event).Begun ↔ p.Begun ∨ event.beginsElement = true := by
  obtain ⟨stack, root⟩ := p
  cases event with
  | start name attributes => simp [step, Begun, Event.beginsElement]
  | empty name attributes =>
    cases stack <;> cases root <;> simp [step, attach, Begun, push, settle, Event.beginsElement]
  | stop =>
    cases stack with
    | nil => simp [step, Begun, Event.beginsElement]
    | cons f stack =>
      cases stack <;> cases root <;> simp [step, attach, Begun, push, settle]
  | text s => cases stack <;> simp [step, Begun, push, Event.beginsElement]
  | cdata s => cases stack <;> simp [step, Begun, push, Event.beginsElement]

theorem begun_run (p : Progress) (events : List Event) :
    (p.run events).Begun ↔ p.Begun ∨ ∃ event ∈ events, event.beginsElement = true := by
  induction events generalizing p with
  | nil => simp [run]
  | cons event rest ih =>
    have hrest := ih (p.step event)
    rw [begun_step, or_assoc] at hrest
    simpa [run] using hrest

-- The events of the first element: those that have been taken in, and those ahead.
def told (p : Progress) (ahead : List Event) : List Event :=
  match p.root, p.stack with
  | some root, _ => root.node.events
  | none, [] => (Event.firstElement ahead).flatMap Event.plain
  | none, f :: stack =>
    opened (f :: stack) ++ (Event.untilClosed (stack.length + 1) ahead).flatMap Event.plain

theorem told_of_root {root : Element} (h : p.root = some root) (ahead : List Event) :
    p.told ahead = root.node.events := by
  rw [told, h]

theorem told_push (node : Node) (f : Frame) (stack : List Frame) (ahead : List Event) :
    told ⟨push node (f :: stack), none⟩ ahead = opened (f :: stack) ++ node.events ++
      (Event.untilClosed (stack.length + 1) ahead).flatMap Event.plain := by
  rw [← opened_push]
  rfl

-- The first root stays.
theorem root_step {root : Element} (h : p.root = some root) (event : Event) :
    (p.step event).root = some root := by
  obtain ⟨stack, _⟩ := p
  obtain rfl := h
  cases event with
  | start name attributes => rfl
  | empty name attributes => exact settle_some stack root _
  | stop =>
    cases stack with
    | nil => rfl
    | cons f stack => exact settle_some stack root _
  | text s => rfl
  | cdata s => rfl

-- Whatever comes next, it goes over from what is ahead to what has been taken in.
theorem told_step (p : Progress) (event : Event) (rest : List Event) :
    (p.step event).told rest = p.told (event :: rest) := by
  obtain ⟨stack, root⟩ := p
  cases root with
  | some root => rw [told_of_root (root_step rfl event), told_of_root rfl]
  | none =>
    cases stack with
    | nil =>
      cases event with
      | start name attributes =>
        simp [step, headingIn, told, opened, eventsOf, Event.firstElement, Event.plain]
      | empty name attributes =>
        simp [step, attach, headingIn, push, settle, told, Element.node, Node.events, eventsOf,
          Event.firstElement, Event.plain]
      | stop => simp [step, told, Event.firstElement]
      | text s => simp [step, push, told, Event.firstElement]
      | cdata s => simp [step, push, told, Event.firstElement]
    | cons f stack =>
      cases event with
      | start name attributes =>
        simp [step, told, opened, eventsOf, Event.untilClosed, Event.plain]
      | empty name attributes =>
        refine (told_push _ f stack rest).trans ?_
        simp [told, Element.node, Node.events, eventsOf, Event.untilClosed, Event.plain]
      | stop =>
        have hclose : opened stack ++ f.close.node.events = opened (f :: stack) ++ [.stop] := by
          simp [opened, Frame.close, Element.node, Node.events]
        cases stack with
        | nil =>
          simpa [step, attach, push, settle, told, opened, Event.untilClosed, Event.plain] using hclose
        | cons g stack =>
          refine (told_push _ g stack rest).trans ?_
          rw [hclose]
          simp [told, Event.untilClosed, Event.plain]
      | text s =>
        refine (told_push _ f stack rest).trans ?_
        simp [told, Node.events, Event.untilClosed, Event.plain]
      | cdata s =>
        refine (told_push _ f stack rest).trans ?_
        simp [told, Node.events, Event.untilClosed, Event.plain]

theorem told_run (p : Progress) (events : List Event) : (p.run events).told [] = p.told events := by
  induction events generalizing p with
  | nil => rfl
  | cons event rest ih => exact (ih (p.step event)).trans (told_step p event rest)

end Progress

-- Paths in a node go on from the names of the elements around it.
def Node.PlacedUnder (names : List String) (node : Node) : Prop :=
  ∀ below e, node.Holds below e → e.path = ".".intercalate (names ++ below)

theorem placedUnder_text (names : List String) (s : String) : (Node.text s).PlacedUnder names :=
  fun _ _ h => by cases h

theorem placedUnder_element {names : List String} {heading : Heading} {children : List Node}
    (hpath : heading.path = ".".intercalate (names ++ [heading.name]))
    (hchildren : ∀ child ∈ children, child.PlacedUnder (names ++ [heading.name])) :
    (Node.element heading children).PlacedUnder names := by
  intro below e h
  cases h with
  | self => exact hpath
  | inside hchild h =>
    rw [List.append_cons]
    exact hchildren _ hchild _ _ h

-- The path of an open element names those around it, and those in it go on from there.
def PlacedAll : List Frame → Prop
  | [] => True
  | f :: stack =>
    f.heading.path = ".".intercalate (namesOf (f :: stack)).reverse ∧
      (∀ node ∈ f.done, node.PlacedUnder (namesOf (f :: stack)).reverse) ∧ PlacedAll stack

theorem path_headingIn {stack : List Frame} (h : PlacedAll stack) (name : String)
    (attributes : Attributes) :
    (headingIn stack name attributes).path = ".".intercalate ((namesOf stack).reverse ++ [name]) := by
  cases stack with
  | nil => simp [headingIn, namesOf]
  | cons f stack =>
    have hne : (namesOf (f :: stack)).reverse ≠ [] := by simp [namesOf]
    rw [String.intercalate_append_of_ne_nil hne (by simp), String.intercalate_singleton, ← h.1]
    rfl

theorem placedAll_push {node : Node} {stack : List Frame} (h : PlacedAll stack)
    (hnode : node.PlacedUnder (namesOf stack).reverse) : PlacedAll (push node stack) := by
  cases stack with
  | nil => trivial
  | cons f stack => exact ⟨h.1, List.forall_mem_cons.mpr ⟨hnode, h.2.1⟩, h.2.2⟩

theorem placedUnder_close {f : Frame} {stack : List Frame} (h : PlacedAll (f :: stack)) :
    f.close.node.PlacedUnder (namesOf stack).reverse := by
  have hnames : (namesOf (f :: stack)).reverse = (namesOf stack).reverse ++ [f.heading.name] := by
    simp [namesOf]
  obtain ⟨hpath, hdone, -⟩ := h
  rw [hnames] at hpath hdone
  exact placedUnder_element hpath fun child hchild => hdone child (List.mem_reverse.mp hchild)

namespace Progress

structure Placed (p : Progress) : Prop where
  stack : PlacedAll p.stack
  root : ∀ root, p.root = some root → root.node.PlacedUnder []

theorem Placed.attach {p : Progress} (h : p.Placed) {e : Element}
    (he : e.node.PlacedUnder (namesOf p.stack).reverse) : (p.attach e).Placed where
  stack := placedAll_push h.stack he
  root := by
    intro root hroot
    obtain ⟨stack, first⟩ := p
    cases first with
    | some first => exact h.root root ((settle_some stack first e).symm.trans hroot)
    | none =>
      cases stack with
      | nil =>
        cases hroot
        exact he
      | cons f stack => cases hroot

theorem Placed.step {p : Progress} (h : p.Placed) (event : Event) : (p.step event).Placed := by
  obtain ⟨stack, root⟩ := p
  cases event with
  | start name attributes =>
    refine ⟨⟨?_, by simp, h.stack⟩, h.root⟩
    simpa [namesOf] using path_headingIn h.stack name attributes
  | empty name attributes =>
    refine h.attach (placedUnder_element ?_ (by simp))
    simpa using path_headingIn h.stack name attributes
  | stop =>
    cases stack with
    | nil => exact h
    | cons f stack =>
      have hopen : PlacedAll (f :: stack) := h.stack
      have hrest : Placed ⟨stack, root⟩ := ⟨hopen.2.2, h.root⟩
      exact hrest.attach (placedUnder_close hopen)
  | text s => exact ⟨placedAll_push h.stack (placedUnder_text _ s), h.root⟩
  | cdata s => exact ⟨placedAll_push h.stack (placedUnder_text _ s), h.root⟩

theorem Placed.run {p : Progress} (h : p.Placed) (events : List Event) : (p.run events).Placed := by
  induction events generalizing p with
  | nil => exact h
  | cons event rest ih => exact ih (h.step event)

theorem finish_of_open {p : Progress} {f : Frame} {stack : List Frame} (h : p.stack = f :: stack) :
    p.finish = .error (.unclosed f.heading.path) := by
  obtain ⟨_, root⟩ := p
  obtain rfl := h
  rfl

theorem finish_eq_ok_iff {p : Progress} {root : Element} :
    p.finish = .ok root ↔ p.stack = [] ∧ p.root = some root := by
  obtain ⟨stack, first⟩ := p
  cases stack with
  | nil => cases first <;> simp [finish]
  | cons f stack => simp [finish]

def start : Progress := ⟨[], none⟩

theorem not_begun_start : ¬ start.Begun := by simp [Begun, start]

theorem placed_start : start.Placed := ⟨trivial, fun _ h => by cases h⟩

end Progress

theorem ofEvents_eq (events : List Event) :
    Element.ofEvents events = (Progress.start.run events).finish := build_eq [] none events

-- Comments, declarations and the like leave no trace.
theorem ofTokens?_filter (names : List (List Char)) (tokens : List Token) :
    Event.ofTokens? names (tokens.filter (· ≠ .aside)) = Event.ofTokens? names tokens := by
  induction tokens generalizing names with
  | nil => rfl
  | cons token rest ih =>
    by_cases haside : token = .aside
    · rw [List.filter_cons_of_neg (by simpa using haside), haside]
      exact ih names
    · rw [List.filter_cons_of_pos (by simpa using haside)]
      cases token <;> simp only [Event.ofTokens?, ih]

theorem read_of_ofTokens? {s : String} {tokens : List Token} {events : List Event}
    (htokens : tokens? (Event.dropByteOrderMark (protect s.toList)) = some tokens)
    (hevents : Event.ofTokens? [] (tokens.filter (· ≠ .aside)) = some events) :
    Element.read s = Element.ofEvents events := by
  rw [ofTokens?_filter] at hevents
  rw [Element.read, Event.read?, htokens, Option.bind_some, hevents]

-- The tree of some events is their first element, and there is one if some element begins and none is
-- left open.
theorem ofEvents_reconstructs (events : List Event) :
    (∀ root, Element.ofEvents events = .ok root →
      root.node.events = (Event.firstElement events).flatMap Event.plain ∧
      ∀ names e, root.node.Holds names e → e.path = ".".intercalate names) ∧
    ((∃ root, Element.ofEvents events = .ok root) ↔
      Event.openNames [] events = [] ∧ ∃ event ∈ events, event.beginsElement = true) ∧
    (∀ name names, Event.openNames [] events = name :: names → Element.ofEvents events =
      .error (.unclosed (".".intercalate (name :: names).reverse))) ∧
    ∀ s tokens, tokens? (Event.dropByteOrderMark (protect s.toList)) = some tokens →
      Event.ofTokens? [] (tokens.filter (· ≠ .aside)) = some events →
        Element.read s = Element.ofEvents events := by
  have hnames : namesOf (Progress.start.run events).stack = Event.openNames [] events :=
    Progress.start.namesOf_run events
  have hplaced := Progress.placed_start.run events
  refine ⟨fun root hroot => ?tree, ?succeeds, fun name names hopen => ?unclosed,
    fun s tokens => read_of_ofTokens?⟩
  case tree =>
    rw [ofEvents_eq, Progress.finish_eq_ok_iff] at hroot
    have htold := Progress.start.told_run events
    rw [Progress.told_of_root hroot.2] at htold
    exact ⟨htold, hplaced.root root hroot.2⟩
  case succeeds =>
    have hstack : (Progress.start.run events).stack = [] ↔ Event.openNames [] events = [] := by
      rw [← hnames, namesOf, List.map_eq_nil_iff]
    have hbegun := Progress.start.begun_run events
    rw [or_iff_right Progress.not_begun_start] at hbegun
    simp only [ofEvents_eq, Progress.finish_eq_ok_iff, exists_and_left, ← Option.isSome_iff_exists,
      ← hstack, ← hbegun]
    exact and_congr_right fun hnil => (or_iff_right fun h => h hnil).symm
  case unclosed =>
    obtain ⟨f, stack, hstack, -, -⟩ := List.map_eq_cons_iff.mp (hnames.trans hopen)
    have hpath : f.heading.path = ".".intercalate (namesOf (f :: stack)).reverse := by
      have hopened := hplaced.stack
      rw [hstack] at hopened
      exact hopened.1
    rw [ofEvents_eq, Progress.finish_of_open hstack, hpath, ← hstack, hnames, hopen]

-- A declaration and a comment in front of the first element, and a second one behind it.
def twoElements : List Char :=
  "<?xml version=\"1.0\"?><!-- <x> --><p:a k=\"1\"><b/>s<![CDATA[<t>]]><b><c></c></b></p:a> <d>u</d>".toList

def twoElementsEvents : List Event :=
  [.start "a" [("k", "1")], .empty "b" [], .text "s", .cdata "<t>", .start "b" [], .start "c" [],
    .stop, .stop, .stop, .text " ", .start "d" [], .text "u", .stop]

def twoElementsRoot : Element :=
  ⟨⟨"a", "a", [("k", "1")]⟩, [.element ⟨"b", "a.b", []⟩ [], .text "s", .text "<t>",
    .element ⟨"b", "a.b", []⟩ [.element ⟨"c", "a.b.c", []⟩ []]]⟩

theorem ofEvents_reconstructs_twoElements :
    ∃ tokens e, tokens? (Event.dropByteOrderMark (protect twoElements)) = some tokens ∧
      Event.ofTokens? [] (tokens.filter (· ≠ .aside)) = some twoElementsEvents ∧
      Element.read (String.ofList twoElements) = .ok twoElementsRoot ∧
      twoElementsRoot.node.events = [.start "a" [("k", "1")], .start "b" [], .stop, .text "s",
        .text "<t>", .start "b" [], .start "c" [], .stop, .stop, .stop] ∧
      twoElementsRoot.node.Holds ["a", "b", "c"] e ∧ e.path = "a.b.c" ∧
      Element.ofEvents (twoElementsEvents.take 5) = .error (.unclosed "a.b") := by
  obtain ⟨htree, hsucceeds, -, hread⟩ := ofEvents_reconstructs twoElementsEvents
  obtain ⟨-, -, hunclosed, -⟩ := ofEvents_reconstructs (twoElementsEvents.take 5)
  obtain ⟨root, hroot⟩ := hsucceeds.mpr ⟨by decide, _, .head _, rfl⟩
  obtain rfl : twoElementsRoot = root := Except.ok.inj hroot
  obtain ⟨hevents, hpaths⟩ := htree twoElementsRoot hroot
  have hbind : ((tokens? (Event.dropByteOrderMark (protect twoElements))).bind fun tokens =>
      Event.ofTokens? [] (tokens.filter (· ≠ .aside))) = some twoElementsEvents := by
    decide +kernel
  obtain ⟨tokens, htokens, hkept⟩ := Option.bind_eq_some_iff.mp hbind
  have htext := hread (String.ofList twoElements) tokens
    (by rw [String.toList_ofList]; exact htokens) hkept
  have hheld : twoElementsRoot.node.Holds ["a", "b", "c"] ⟨⟨"c", "a.b.c", []⟩, []⟩ :=
    .inside (.tail _ (.tail _ (.tail _ (.head _)))) (.inside (.head _) (.self _ _))
  exact ⟨tokens, _, htokens, hkept, htext.trans hroot, hevents.trans (by decide), hheld,
    hpaths _ _ hheld, hunclosed "b" ["a"] (by decide)⟩

end Cruciverb.Xml
