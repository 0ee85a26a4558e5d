import Cruciverb.Proofs.Document.ClueText

namespace Cruciverb

open Cruciverb.Text

-- The parts of a clue line, with the white space between them.
structure ClueParts where
  x : List Char
  y : List Char
  beforeId : List Char
  id : List Char
  beforeBody : List Char
  body : List Char
  afterBody : List Char
  answer : List Char

namespace ClueParts

def text (parts : ClueParts) : List Char :=
  '-' :: ' ' :: '(' :: (parts.x ++ ',' :: (parts.y ++ ')' :: (parts.beforeId ++ (parts.id ++ '.' ::
    (parts.beforeBody ++ parts.body ++ parts.afterBody ++ '(' :: (parts.answer ++ [')']))))))

structure Grammatical (parts : ClueParts) : Prop where
  x : isNumeral parts.x = true
  y : isNumeral parts.y = true
  id : isNumeral parts.id = true
  beforeId : Line.Blanks parts.beforeId
  beforeBody : Line.Blanks parts.beforeBody
  afterBody : Line.Blanks parts.afterBody
  body_ne_nil : parts.body ≠ []
  body_head : ∀ c, parts.body.head? = some c → isBlank c = false
  -- in front of the body there may be a line feed, but not in it or behind it
  oneLine : '\n' ∉ parts.body ++ parts.afterBody
  answer : Line.isAnswer parts.answer = true

-- The place and the number, where they are small enough.
def numbers? (parts : ClueParts) : Option (Coord × Nat) :=
  match readNumeral? wordLimit parts.x, readNumeral? wordLimit parts.y, readNumeral? idLimit parts.id with
  | some x, some y, some id => some (⟨x, y⟩, id)
  | _, _, _ => none

def clue? (parts : ClueParts) (body : List Char) : Option ClueLine :=
  parts.numbers?.map fun (position, id) => ⟨position, id, String.ofList body, String.ofList parts.answer⟩

variable {parts : ClueParts}

theorem clueHead?_text (h : parts.Grammatical) :
    Line.clueHead? parts.text = parts.numbers?.map fun (position, id) => (position, id,
      parts.beforeBody ++ parts.body ++ parts.afterBody ++ '(' :: (parts.answer ++ [')'])) := by
  refine (Line.clueHead?_spaced h.x h.y h.id h.beforeId _).trans ?_
  rw [numbers?]
  cases readNumeral? wordLimit parts.x with
  | none => rfl
  | some x =>
    cases readNumeral? wordLimit parts.y with
    | none => rfl
    | some y => cases readNumeral? idLimit parts.id <;> rfl

theorem clue?_text (h : parts.Grammatical) :
    Line.clue? parts.text = parts.clue? (parts.body ++ parts.afterBody.dropLast) := by
  have hhead := clueHead?_text h
  have hbody := Line.body?_between h.beforeBody h.afterBody h.body_ne_nil h.body_head h.oneLine
  rw [clue?]
  cases hn : parts.numbers? with
  | none =>
    rw [hn] at hhead
    simp only [Line.clue?, hhead, Option.map_none]
  | some n =>
    rw [hn] at hhead
    exact Line.clue?_of_parts hhead hbody h.answer

theorem clue?_eq_iff {body other : List Char} {line : ClueLine} (h : parts.clue? body = some line) :
    parts.clue? other = some line ↔ other = body := by
  obtain ⟨n, hn, rfl⟩ := Option.map_eq_some_iff.mp h
  simp [clue?, hn, String.ofList_inj]

theorem dropLast_eq_nil_iff {cs : List Char} (h : Line.Blanks cs) : cs.dropLast = [] ↔ cs.length = 1 := by
  have hpos : 0 < cs.length := List.length_pos_iff.mpr h.ne_nil
  rw [← List.length_eq_zero_iff, List.length_dropLast]
  omega

theorem read_spaced (h : parts.Grammatical) :
    Line.read parts.text = (parts.clue? (parts.body ++ parts.afterBody.dropLast)).elim .unrecognised .clue ∧
    (∀ beforeId beforeBody : List Char, Line.Blanks beforeId → Line.Blanks beforeBody →
      Line.read { parts with beforeId, beforeBody }.text = Line.read parts.text) ∧
    ∀ line, parts.clue? parts.body = some line →
      (Line.read parts.text = .clue line ↔ parts.afterBody.length = 1) := by
  have hread : ∀ {parts : ClueParts}, parts.Grammatical → Line.read parts.text =
      (parts.clue? (parts.body ++ parts.afterBody.dropLast)).elim .unrecognised .clue := by
    intro parts h
    rw [← clue?_text h]
    exact Line.read_dashed _
  refine ⟨hread h, fun beforeId beforeBody hid hbody => ?_, fun line hline => ?_⟩
  · rw [hread h]
    exact hread { h with beforeId := hid, beforeBody := hbody }
  · have hclue : Line.read parts.text = .clue line ↔
        parts.clue? (parts.body ++ parts.afterBody.dropLast) = some line := by
      rw [hread h]
      cases parts.clue? (parts.body ++ parts.afterBody.dropLast) <;> simp
    rw [hclue, clue?_eq_iff hline, List.append_right_eq_self, dropLast_eq_nil_iff h.afterBody]

-- A tabulator and more than one space make no difference in front of the body, but behind it they do.
def widePet : ClueParts where
  x := ['1']
  y := ['1']
  beforeId := ['\t', ' ']
  id := ['1']
  beforeBody := [' ', ' ', ' ']
  body := "Pet".toList
  afterBody := [' ', ' ']
  answer := "CAT".toList

theorem grammatical_widePet : widePet.Grammatical where
  x := by decide
  y := by decide
  id := by decide
  beforeId := ⟨by decide, by decide⟩
  beforeBody := ⟨by decide, by decide⟩
  afterBody := ⟨by decide, by decide⟩
  body_ne_nil := by decide
  body_head := by decide
  oneLine := by decide
  answer := by decide

theorem read_spaced_widePet :
    widePet.Grammatical ∧ Line.read widePet.text = .clue ⟨⟨1, 1⟩, 1, "Pet ", "CAT"⟩ ∧
    Line.read { widePet with beforeId := [' '], beforeBody := [' '] }.text = Line.read widePet.text ∧
    Line.read widePet.text ≠ .clue ⟨⟨1, 1⟩, 1, "Pet", "CAT"⟩ := by
  obtain ⟨hread, hfront, hback⟩ := read_spaced grammatical_widePet
  have hclue : widePet.clue? (widePet.body ++ widePet.afterBody.dropLast) =
      some ⟨⟨1, 1⟩, 1, "Pet ", "CAT"⟩ := by decide
  rw [hclue] at hread
  exact ⟨grammatical_widePet, hread, hfront _ _ Line.blanks_space Line.blanks_space,
    fun heq => absurd ((hback _ (by decide)).mp heq) (by decide)⟩

-- So a body is not what stands between the white space on its two sides.
theorem not_read_body :
    ¬ ∀ parts : ClueParts, parts.Grammatical →
      (∀ c, parts.body.getLast? = some c → isBlank c = false) →
      ∀ line, parts.clue? parts.body = some line → Line.read parts.text = .clue line := by
  intro h
  have hread : Line.read widePet.text = .clue ⟨⟨1, 1⟩, 1, "Pet", "CAT"⟩ :=
    h widePet grammatical_widePet (by decide) _ (by decide)
  revert hread
  decide

end ClueParts

end Cruciverb
