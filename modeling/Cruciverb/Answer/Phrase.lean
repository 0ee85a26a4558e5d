namespace Cruciverb.Answer

-- A comma stands between words, a hyphen between the parts of a compound.
inductive Separator where
  | comma
  | hyphen
  deriving DecidableEq, Repr

def Separator.char : Separator → Char
  | .comma => ','
  | .hyphen => '-'

def Separator.ofChar? (c : Char) : Option Separator :=
  if c = ',' then some .comma else if c = '-' then some .hyphen else none

def isSeparator (c : Char) : Bool := (Separator.ofChar? c).isSome

structure Phrase (α : Type) where
  parts : List α
  gaps : List Separator
  -- one gap between any two neighbours
  gaps_length : gaps.length = parts.length - 1
  deriving DecidableEq

-- The parts in order, each gap written between its neighbours.
def weave : List (List Char) → List Separator → List Char
  | [], _ => []
  | part :: parts, gaps => part ++ (List.zipWith (fun gap p => gap.char :: p) gaps parts).flatten

namespace Phrase

def map {α β : Type} (f : α → β) (p : Phrase α) : Phrase β where
  parts := p.parts.map f
  gaps := p.gaps
  gaps_length := by simp [p.gaps_length]

def text (p : Phrase (List Char)) : List Char := weave p.parts p.gaps

end Phrase

theorem length_splitOnP_isSeparator (cs : List Char) :
    (cs.filterMap Separator.ofChar?).length + 1 = (cs.splitOnP isSeparator).length := by
  induction cs with
  | nil => simp
  | cons c cs ih =>
    rw [List.splitOnP_cons_eq_if_modifyHead, List.filterMap_cons]
    cases h : Separator.ofChar? c with
    | none => simp [isSeparator, h, ih]
    | some s => simp [isSeparator, h, ih]

-- Cuts at every separator, so parts may be empty; a text without one is a single part.
def split (cs : List Char) : Phrase (List Char) where
  parts := cs.splitOnP isSeparator
  gaps := cs.filterMap Separator.ofChar?
  gaps_length := by rw [← length_splitOnP_isSeparator]; rfl

theorem weave_modifyHead_cons (c : Char) {parts : List (List Char)} (gaps : List Separator)
    (h : parts ≠ []) :
    weave (parts.modifyHead (c :: ·)) gaps = c :: weave parts gaps := by
  cases parts with
  | nil => exact absurd rfl h
  | cons part parts => rfl

theorem Separator.char_of_ofChar? {c : Char} {s : Separator} (h : Separator.ofChar? c = some s) :
    s.char = c := by
  simp only [Separator.ofChar?] at h
  split at h
  · cases h
    simp_all [Separator.char]
  · split at h
    · cases h
      simp_all [Separator.char]
    · cases h

@[simp] theorem Separator.ofChar?_char (s : Separator) : Separator.ofChar? s.char = some s := by
  cases s <;> decide

-- Nothing is lost by cutting.
@[simp] theorem text_split (cs : List Char) : (split cs).text = cs := by
  simp only [Phrase.text, split]
  induction cs with
  | nil => rfl
  | cons c cs ih =>
    rw [List.splitOnP_cons_eq_if_modifyHead, List.filterMap_cons]
    have hne : cs.splitOnP isSeparator ≠ [] := List.splitOnP_ne_nil _ _
    cases h : Separator.ofChar? c with
    | none =>
      simp only [isSeparator, h, Option.isSome_none, Bool.false_eq_true, ↓reduceIte]
      rw [weave_modifyHead_cons c _ hne]
      exact congrArg (c :: ·) ih
    | some s =>
      simp only [isSeparator, h, Option.isSome_some, ↓reduceIte]
      have hc := Separator.char_of_ofChar? h
      cases hp : cs.splitOnP isSeparator with
      | nil => exact absurd hp hne
      | cons part parts =>
        rw [hp] at ih
        simp only [weave, List.nil_append, List.zipWith_cons_cons, List.flatten_cons,
          List.cons_append, hc]
        exact congrArg (c :: ·) ih

end Cruciverb.Answer
