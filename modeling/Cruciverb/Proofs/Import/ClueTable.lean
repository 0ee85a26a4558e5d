import Cruciverb.Import.CompilerExport
import Cruciverb.Proofs.Pairing
import Mathlib.Data.List.Induction

namespace Cruciverb.Import

open Cruciverb.Answer Cruciverb.Text Cruciverb.Xml

-- Where the answer of a member is found.
def Member.key (m : Member) : Nat × Direction := (m.id, m.direction)

theorem ClueTable.get?_put (t : ClueTable) (d e : Direction) (id k : Nat) (clue : ResolvedClue) :
    ((t.put d id clue).get e).get? k =
      if (id, d) = (k, e) then some clue else (t.get e).get? k := by
  rw [ClueTable.put, Both.get_modify]
  by_cases hd : d = e
  · subst hd
    simp
  · simp [hd]

theorem putMembers_append (t : ClueTable) (ws vs : List (Member × ResolvedClue)) :
    putMembers t (ws ++ vs) = putMembers (putMembers t ws) vs :=
  List.foldl_append ..

-- The last clue put at an answer is there, and where none is put nothing changes.
theorem get?_putMembers (t : ClueTable) (ws : List (Member × ResolvedClue)) (d : Direction) (id : Nat) :
    ((putMembers t ws).get d).get? id =
      ((ws.reverse.find? (·.1.key == (id, d))).map (·.2)).or ((t.get d).get? id) := by
  induction ws using List.reverseRecOn with
  | nil => rfl
  | append_singleton ws w ih =>
    rw [putMembers_append]
    show (((putMembers t ws).put w.1.direction w.1.id w.2).get d).get? id = _
    rw [ClueTable.get?_put, ih, List.reverse_append, List.reverse_singleton,
      List.singleton_append, List.find?_cons]
    show (if w.1.key = (id, d) then _ else _) = _
    by_cases hk : w.1.key = (id, d)
    · have hkey : (w.1.key == (id, d)) = true := by simpa using hk
      rw [if_pos hk, hkey]
      rfl
    · have hkey : (w.1.key == (id, d)) = false := by simpa using hk
      rw [if_neg hk, hkey]

-- Where a clue is put, it stands there in the end, or a later one for the same answer does.
theorem exists_get?_putMembers (t : ClueTable) {ws : List (Member × ResolvedClue)}
    {w : Member × ResolvedClue} (hw : w ∈ ws) :
    ∃ v ∈ ws, v.1.key = w.1.key ∧
      ((putMembers t ws).get w.1.direction).get? w.1.id = some v.2 := by
  rw [get?_putMembers]
  cases hfind : ws.reverse.find? (·.1.key == (w.1.id, w.1.direction)) with
  | none => exact absurd (List.find?_eq_none.mp hfind w (List.mem_reverse.mpr hw)) (by simp [Member.key])
  | some v =>
    have hkey := List.find?_some hfind
    exact ⟨v, List.mem_reverse.mp (List.mem_of_find?_eq_some hfind), eq_of_beq hkey, rfl⟩

theorem get?_putMembers_of_forall_ne (t : ClueTable) {ws : List (Member × ResolvedClue)} {d : Direction}
    {id : Nat} (h : ∀ w ∈ ws, w.1.key ≠ (id, d)) :
    ((putMembers t ws).get d).get? id = (t.get d).get? id := by
  have hnone : ws.reverse.find? (·.1.key == (id, d)) = none := by
    rw [List.find?_eq_none]
    intro w hw
    simpa using h w (List.mem_reverse.mp hw)
  rw [get?_putMembers, hnone]
  rfl

def ListedClue.forSeveral (clue : ListedClue) : Bool := isComposite clue.number.toList

-- A clue that is listed for the answer with a number alone.
def ListedClue.forNumber (id : Nat) (clue : ListedClue) : Bool :=
  !clue.forSeveral && Element.readUnsigned? idLimit clue.number.toList == some id

def ListedClue.plain (clue : ListedClue) : ResolvedClue := ⟨clue.text, clue.format, none⟩

def plainClue? (listed : List ListedClue) (id : Nat) : Option ResolvedClue :=
  ((listed.filter (ListedClue.forNumber id)).getLast?).map ListedClue.plain

theorem plainClue?_cons (clue : ListedClue) (listed : List ListedClue) (id : Nat) :
    plainClue? (clue :: listed) id =
      (plainClue? listed id).or (if clue.forNumber id then some clue.plain else none) := by
  rw [plainClue?, plainClue?, List.filter_cons]
  split
  · rw [List.getLast?_cons]
    cases (listed.filter (ListedClue.forNumber id)).getLast? <;> rfl
  · rw [Option.or_none]

theorem get?_putPlain {d : Direction} {t t' : ClueTable} {listed : List ListedClue}
    (h : putPlain d t listed = .ok t') (e : Direction) (id : Nat) :
    (t'.get e).get? id =
      if d = e then (plainClue? listed id).or ((t.get e).get? id) else (t.get e).get? id := by
  induction listed generalizing t with
  | nil =>
    cases h
    exact (ite_self _).symm
  | cons clue listed ih =>
    rw [putPlain] at h
    split at h
    · next hseveral =>
      have hno : clue.forNumber id = false := by
        rw [ListedClue.forNumber, ListedClue.forSeveral, hseveral]
        rfl
      rw [ih h, plainClue?_cons, hno, if_neg Bool.false_ne_true, Option.or_none]
    · next hplain =>
      split at h
      · cases h
      · next k hk =>
        have hnumber : clue.forNumber id = (k == id) := by
          simp [ListedClue.forNumber, ListedClue.forSeveral, hplain, hk]
        rw [ih h, ClueTable.get?_put, plainClue?_cons, hnumber]
        by_cases hd : d = e
        · by_cases hid : k = id <;> simp [hd, hid, ListedClue.plain]
        · simp [hd]

-- What a clue for several answers comes to.
structure Spread where
  clue : ListedClue
  direction : Direction
  primary : Nat
  members : List Member
  formats : List Format

namespace Spread

structure Of (answers : Table (Starts Nat)) (listed : Direction × ListedClue) (x : Spread) : Prop where
  direction : x.direction = listed.1
  clue : x.clue = listed.2
  members : ∃ composite, CompositeId.read x.clue.number.toList = .ok composite ∧
    composite.primary = x.primary ∧ resolve answers x.direction composite = .ok x.members
  formats : ∃ whole, Format.ofString x.clue.format = .ok whole ∧
    distribute (x.clue.number ++ " " ++ x.direction.name) whole x.members = .ok x.formats

def writes (answers : Table (Starts Nat)) (x : Spread) : List (Member × ResolvedClue) :=
  memberClues answers x.direction x.primary x.clue x.members x.formats

def keys (x : Spread) : List (Nat × Direction) := x.members.map Member.key

end Spread

-- The clues for several answers, in the order in which they are put.
def composites (listed : Both (List ListedClue)) : List (Direction × ListedClue) :=
  Direction.all.flatMap fun d =>
    ((listed.get d).filter ListedClue.forSeveral).map (d, ·)

theorem mem_composites {listed : Both (List ListedClue)} {d : Direction} {clue : ListedClue} :
    (d, clue) ∈ composites listed ↔ clue ∈ listed.get d ∧ clue.forSeveral = true := by
  cases d <;> simp [composites, Direction.all]

section Resolution

variable {answers : Table (Starts Nat)} {t t' : ClueTable} {d : Direction}

theorem resolveComposite_ok {clue : ListedClue} {ws : List (Member × ResolvedClue)}
    (h : resolveComposite answers d clue = .ok ws) :
    ∃ x : Spread, x.Of answers (d, clue) ∧ ws = x.writes answers := by
  rw [resolveComposite] at h
  split at h
  · cases h
  · next composite hread =>
    split at h
    · cases h
    · next ms hms =>
      split at h
      · cases h
      · next whole hwhole =>
        split at h
        · cases h
        · next fs hfs =>
          cases h
          exact ⟨⟨clue, d, composite.primary, ms, fs⟩,
            ⟨rfl, rfl, ⟨composite, hread, rfl, hms⟩, whole, hwhole, hfs⟩, rfl⟩

theorem putComposites_ok {listed : List ListedClue} (h : putComposites answers d t listed = .ok t') :
    ∃ xs : List Spread, List.Forall₂ (Spread.Of answers)
        ((listed.filter ListedClue.forSeveral).map (d, ·)) xs ∧
      t' = putMembers t (xs.flatMap (Spread.writes answers)) := by
  induction listed generalizing t with
  | nil =>
    cases h
    exact ⟨[], .nil, rfl⟩
  | cons clue listed ih =>
    rw [putComposites] at h
    change (if clue.forSeveral then _ else _) = _ at h
    split at h
    · next hseveral =>
      split at h
      · cases h
      · next ws hws =>
        obtain ⟨x, hx, rfl⟩ := resolveComposite_ok hws
        obtain ⟨xs, hxs, rfl⟩ := ih h
        refine ⟨x :: xs, ?_, ?_⟩
        · rw [List.filter_cons_of_pos hseveral, List.map_cons]
          exact .cons hx hxs
        · rw [List.flatMap_cons, putMembers_append]
    · next hplain =>
      rw [List.filter_cons_of_neg hplain]
      exact ih h

-- The table holds the clues for one answer, with those for several answers put over them.
theorem resolveClues_ok {listed : Both (List ListedClue)} (h : resolveClues answers listed = .ok t) :
    ∃ (plain : ClueTable) (xs : List Spread),
      (∀ d id, (plain.get d).get? id = plainClue? (listed.get d) id) ∧
      List.Forall₂ (Spread.Of answers) (composites listed) xs ∧
      t = putMembers plain (xs.flatMap (Spread.writes answers)) := by
  simp only [resolveClues, bind_ok_iff] at h
  obtain ⟨first, hacross, plain, hdown, second, hcomposites, h⟩ := h
  obtain ⟨xs, hxs, rfl⟩ := putComposites_ok hcomposites
  obtain ⟨ys, hys, rfl⟩ := putComposites_ok h
  refine ⟨plain, xs ++ ys, fun d id => ?_, ?_, ?_⟩
  · rw [get?_putPlain hdown, get?_putPlain hacross]
    cases d <;> simp [Both.get]
  · rw [composites, Direction.all, List.flatMap_cons, List.flatMap_singleton]
    exact List.rel_append hxs hys
  · rw [List.flatMap_append, putMembers_append]

theorem exists_of_forall₂_composites {listed : Both (List ListedClue)} {xs : List Spread}
    (h : List.Forall₂ (Spread.Of answers) (composites listed) xs) {x : Spread} (hx : x ∈ xs) :
    x.clue ∈ listed.get x.direction ∧ x.Of answers (x.direction, x.clue) := by
  obtain ⟨⟨d, clue⟩, hmem, hof⟩ := exists_of_mem_right h hx
  obtain rfl : x.direction = d := hof.direction
  obtain rfl : x.clue = clue := hof.clue
  exact ⟨(mem_composites.mp hmem).1, hof⟩

def ClueTable.All (P : ResolvedClue → Prop) (t : ClueTable) : Prop :=
  ∀ d id clue, (t.get d).get? id = some clue → P clue

-- What every listed clue comes to, on its own or in a sequence, is all that a table holds.
theorem all_resolveClues {P : ResolvedClue → Prop} {listed : Both (List ListedClue)}
    (hplain : ∀ d, ∀ clue ∈ listed.get d, P ⟨clue.text, clue.format, none⟩)
    (hmembers : ∀ d, ∀ clue ∈ listed.get d, ∀ primary sequence formats,
      ∀ m ∈ memberClues answers d primary clue sequence formats, P m.2)
    (h : resolveClues answers listed = .ok t) : t.All P := by
  obtain ⟨plain, xs, hget, hxs, rfl⟩ := resolveClues_ok h
  intro d id clue hclue
  rw [get?_putMembers, Option.or_eq_some_iff, Option.map_eq_some_iff] at hclue
  rcases hclue with ⟨w, hw, rfl⟩ | ⟨-, hclue⟩
  · obtain ⟨x, hx, hw⟩ := List.mem_flatMap.mp (List.mem_reverse.mp (List.mem_of_find?_eq_some hw))
    exact hmembers x.direction x.clue (exists_of_forall₂_composites hxs hx).1 _ _ _ w hw
  · rw [hget, plainClue?, Option.map_eq_some_iff] at hclue
    obtain ⟨listedClue, hlast, rfl⟩ := hclue
    exact hplain d listedClue (List.mem_filter.mp (List.mem_of_getLast? hlast)).1

end Resolution

end Cruciverb.Import
