import Cruciverb.Import.Sequence
import Cruciverb.Proofs.Pairing
import Cruciverb.Proofs.Table
import Cruciverb.Proofs.Text.Lines
import Cruciverb.Proofs.Text.Numerals

namespace Cruciverb.Import

open Cruciverb.Text

section Inference

variable {answers : Table (Starts Nat)} {d : Direction} {m : Member}

theorem member_ok_iff {id : Nat} {e : Direction} : member answers id e = .ok m ↔
    m.id = id ∧ m.direction = e ∧ (answers.get? m.id).bind (·.get m.direction) = some m.length := by
  obtain ⟨i, f, length⟩ := m
  rw [member]
  constructor
  · intro h
    split at h
    · next hlength =>
      cases h
      exact ⟨rfl, rfl, hlength⟩
    · cases h
  · rintro ⟨rfl, rfl, hlength⟩
    dsimp only at hlength
    rw [hlength]

-- The member's answer is the only one at its number.
def Member.Sole (answers : Table (Starts Nat)) (m : Member) : Prop :=
  ∀ e, ((answers.get? m.id).bind (·.get e)).isSome = true → e = m.direction

-- What one of the later ids stands for.
structure Named (answers : Table (Starts Nat)) (d : Direction) (child : Nat × Option Direction)
    (m : Member) : Prop where
  id : m.id = child.1
  slot : (answers.get? m.id).bind (·.get m.direction) = some m.length
  explicit : ∀ e, child.2 = some e → m.direction = e
  inferred : child.2 = none → m.direction = d ∨ m.Sole answers

-- Where an answer starts, it is alone or there is one in each direction.
theorem count_cases {starts : Starts Nat} {length : Nat} (h : starts.get d = some length) :
    (starts.count = 1 ∧ starts.only? = some d ∧ ∀ e, (starts.get e).isSome = true → e = d) ∨
      (starts.count = 2 ∧ ∀ e, (starts.get e).isSome = true) := by
  obtain ⟨across, down⟩ := starts
  cases d with
  | across =>
    obtain rfl : across = some length := h
    cases down with
    | none => exact .inl ⟨rfl, rfl, fun e he => by cases e <;> first | rfl | cases he⟩
    | some _ => exact .inr ⟨rfl, fun e => by cases e <;> rfl⟩
  | down =>
    obtain rfl : down = some length := h
    cases across with
    | none => exact .inl ⟨rfl, rfl, fun e he => by cases e <;> first | rfl | cases he⟩
    | some _ => exact .inr ⟨rfl, fun e => by cases e <;> rfl⟩

theorem named_of_childMember {child : Nat × Option Direction}
    (h : childMember answers d child = .ok m) : Named answers d child m := by
  obtain ⟨id, suffix⟩ := child
  rw [childMember] at h
  split at h
  · cases h
  · next starts hstarts =>
    cases suffix with
    | some explicit =>
      obtain ⟨hid, hdirection, hslot⟩ := member_ok_iff.mp h
      refine ⟨hid, hslot, fun e he => ?_, fun hnone => by cases hnone⟩
      exact hdirection.trans (Option.some.inj he)
    | none =>
      dsimp only at h
      split at h
      · obtain ⟨hid, hdirection, hslot⟩ := member_ok_iff.mp h
        exact ⟨hid, hslot, fun e he => (by cases he), fun _ => .inl hdirection⟩
      · next htwo =>
        split at h
        · obtain ⟨hid, -, hslot⟩ := member_ok_iff.mp h
          refine ⟨hid, hslot, fun e he => (by cases he), fun _ => .inr fun e he => ?_⟩
          rw [hid, hstarts, Option.bind_some] at he hslot
          rcases count_cases hslot with ⟨-, -, hsole⟩ | ⟨hcount, -⟩
          · exact hsole e he
          · exact absurd hcount htwo
        · cases h

theorem childMember_of_named {child : Nat × Option Direction} (h : Named answers d child m) :
    childMember answers d child = .ok m := by
  obtain ⟨id, suffix⟩ := child
  obtain rfl : m.id = id := h.id
  have hmember : member answers m.id m.direction = .ok m := member_ok_iff.mpr ⟨rfl, rfl, h.slot⟩
  obtain ⟨starts, hstarts, hlength⟩ := Option.bind_eq_some_iff.mp h.slot
  rw [childMember]
  simp only [hstarts]
  cases suffix with
  | some e =>
    rw [← h.explicit e rfl]
    exact hmember
  | none =>
    dsimp only
    rcases count_cases hlength with ⟨hone, honly, -⟩ | ⟨htwo, hboth⟩
    · rw [if_neg (by omega), honly]
      exact hmember
    · have hd : d = m.direction := (h.inferred rfl).elim Eq.symm fun hsole =>
        hsole d (by rw [hstarts]; exact hboth d)
      rw [if_pos htwo, hd, hmember]

theorem childMember_ok_iff {child : Nat × Option Direction} :
    childMember answers d child = .ok m ↔ Named answers d child m :=
  ⟨named_of_childMember, childMember_of_named⟩

theorem childMembers_ok_iff {children : List (Nat × Option Direction)} {ms : List Member} :
    childMembers answers d children = .ok ms ↔ List.Forall₂ (Named answers d) children ms := by
  induction children generalizing ms with
  | nil =>
    rw [childMembers, List.forall₂_nil_left_iff, Except.ok.injEq, eq_comm]
  | cons child children ih =>
    rw [childMembers]
    constructor
    · intro h
      split at h
      · cases h
      · next m hm =>
        split at h
        · cases h
        · next rest hrest =>
          cases h
          exact .cons (childMember_ok_iff.mp hm) (ih.mp hrest)
    · intro h
      obtain ⟨m, rest, hm, hrest, rfl⟩ := List.forall₂_cons_left_iff.mp h
      rw [childMember_ok_iff.mpr hm, ih.mpr hrest]

theorem resolve_ok_iff {composite : CompositeId} {ms : List Member} :
    resolve answers d composite = .ok ms ↔ ∃ first rest, ms = first :: rest ∧
      member answers composite.primary d = .ok first ∧
      List.Forall₂ (Named answers d) composite.children rest := by
  rw [resolve]
  constructor
  · intro h
    split at h
    · cases h
    · next first hfirst =>
      split at h
      · cases h
      · next rest hrest =>
        cases h
        exact ⟨first, rest, rfl, hfirst, childMembers_ok_iff.mp hrest⟩
  · rintro ⟨first, rest, rfl, hfirst, hrest⟩
    rw [hfirst, childMembers_ok_iff.mpr hrest]

theorem slots_of_named {children : List (Nat × Option Direction)} {ms : List Member}
    (h : List.Forall₂ (Named answers d) children ms) :
    ∀ m ∈ ms, (answers.get? m.id).bind (·.get m.direction) = some m.length := by
  intro m hm
  obtain ⟨_, -, hnamed⟩ := exists_of_mem_right h hm
  exact hnamed.slot

-- The direction that is written behind the member's number.
def Member.spelled (answers : Table (Starts Nat)) (m : Member) : Option Direction :=
  if (answers.get? m.id).map Starts.count = some 1 then none else some m.direction

theorem spelled_eq_none_iff
    (h : (answers.get? m.id).bind (·.get m.direction) = some m.length) :
    m.spelled answers = none ↔ m.Sole answers := by
  obtain ⟨starts, hstarts, hlength⟩ := Option.bind_eq_some_iff.mp h
  rw [Member.spelled, Member.Sole, hstarts, Option.map_some]
  simp only [Option.bind_some, Option.some.injEq]
  rcases count_cases hlength with ⟨hone, -, hsole⟩ | ⟨htwo, hboth⟩
  · rw [if_pos hone]
    exact iff_of_true rfl hsole
  · rw [if_neg (by omega)]
    refine iff_of_false (Option.some_ne_none _) fun hsole => ?_
    have hsame := (hsole .across (hboth .across)).trans (hsole .down (hboth .down)).symm
    cases hsame

-- As it is written, so it is named.
theorem named_spelled (h : (answers.get? m.id).bind (·.get m.direction) = some m.length) :
    Named answers d (m.id, m.spelled answers) m := by
  refine ⟨rfl, h, fun e he => ?_, fun hnone => .inr ((spelled_eq_none_iff h).mp hnone)⟩
  dsimp only [Member.spelled] at he
  split at he
  · cases he
  · exact Option.some.inj he

end Inference

section Reading

variable {answers : Table (Starts Nat)}

theorem toList_reference (m : Member) : (m.reference answers).toList =
    Nat.toDigits 10 m.id ++ ((m.spelled answers).map fun d => ' ' :: d.name.toList).getD [] := by
  rw [Member.reference, Member.spelled]
  split
  · rw [toList_toString]
    exact (List.append_nil _).symm
  · simp [Member.label]

theorem readDirection?_name (d : Direction) :
    CompositeId.readDirection? (' ' :: d.name.toList) = some (some d) := by
  cases d <;> decide +kernel

theorem readPiece?_toDigits_append {id : Nat} (h : id < idLimit) {rest : List Char}
    (hhead : ∀ c, rest.head? = some c → c.isDigit = false)
    (hlast : ∀ c, rest.getLast? = some c → isBlank c = false) :
    CompositeId.readPiece? (Nat.toDigits 10 id ++ rest) =
      if rest.isEmpty then some (id, none) else (CompositeId.readDirection? rest).map (id, ·) := by
  have htrimmed : Trimmed (Nat.toDigits 10 id ++ rest) := by
    constructor
    · intro c hc
      rw [List.head?_append_of_ne_nil _ Nat.toDigits_ne_nil] at hc
      exact isBlank_of_isDigit (isDigit_of_mem_toDigits (List.mem_of_head? hc))
    · intro c hc
      rw [List.getLast?_append] at hc
      rcases Option.or_eq_some_iff.mp hc with hc | ⟨-, hc⟩
      · exact hlast c hc
      · exact isBlank_of_isDigit (isDigit_of_mem_toDigits (List.mem_of_getLast? hc))
  rw [CompositeId.readPiece?, htrimmed.trim_eq, spanDigits_toDigits id hhead]
  simp only [readNumeral?_toDigits h]

theorem readPiece?_reference {m : Member} (h : m.id < idLimit) :
    CompositeId.readPiece? (m.reference answers).toList = some (m.id, m.spelled answers) := by
  rw [toList_reference]
  cases m.spelled answers with
  | none => exact readPiece?_toDigits_append h (by simp) (by simp)
  | some e =>
    have hlast : ∀ c, (' ' :: e.name.toList).getLast? = some c → isBlank c = false := by
      cases e <;> decide +kernel
    have hread := readPiece?_toDigits_append h (by simp [Char.isDigit]) hlast
    rwa [readDirection?_name] at hread

theorem readPieces?_references {ms : List Member} (h : ∀ m ∈ ms, m.id < idLimit) :
    CompositeId.readPieces? (ms.map fun m => (m.reference answers).toList) =
      some (ms.map fun m => (m.id, m.spelled answers)) := by
  induction ms with
  | nil => rfl
  | cons m ms ih =>
    rw [List.forall_mem_cons] at h
    rw [List.map_cons, CompositeId.readPieces?, readPiece?_reference h.1, ih h.2]
    rfl

theorem comma_not_mem_reference (m : Member) : ',' ∉ (m.reference answers).toList := by
  rw [toList_reference, List.mem_append]
  rintro (h | h)
  · exact absurd (isDigit_of_mem_toDigits h) (by decide)
  · cases hspelled : m.spelled answers with
    | none =>
      rw [hspelled] at h
      cases h
    | some e =>
      rw [hspelled] at h
      revert h
      cases e <;> decide +kernel

-- The number in front of the clue, once it is put behind the first id.
theorem read_prefixText {first : Member} {rest : List Member} (hfirst : first.id < idLimit)
    (hrest : ∀ m ∈ rest, m.id < idLimit) (hne : rest ≠ []) :
    CompositeId.read (toString first.id ++ prefixText answers (first :: rest)).toList =
      .ok ⟨first.id, rest.map fun m => (m.id, m.spelled answers)⟩ := by
  have htext : (toString first.id ++ prefixText answers (first :: rest)).toList =
      [','].intercalate (Nat.toDigits 10 first.id ::
        rest.map fun m => (m.reference answers).toList) := by
    obtain ⟨m, ms, rfl⟩ := List.exists_cons_of_ne_nil hne
    rw [prefixText, String.toList_append, String.toList_append, toList_toString,
      String.toList_intercalate, List.tail_cons, List.map_map, List.map_cons, List.map_cons,
      List.intercalate_cons_cons, List.append_assoc]
    rfl
  have hcomma : ∀ piece ∈ Nat.toDigits 10 first.id ::
      rest.map (fun m => (m.reference answers).toList), ',' ∉ piece := by
    rw [List.forall_mem_cons, List.forall_mem_map]
    refine ⟨fun h => absurd (isDigit_of_mem_toDigits h) (by decide), fun m _ => ?_⟩
    exact comma_not_mem_reference m
  have hdigits := @readPiece?_toDigits_append _ hfirst [] (by simp) (by simp)
  rw [List.append_nil] at hdigits
  rw [CompositeId.read, htext, List.splitOn_intercalate ',' hcomma (List.cons_ne_nil _ _),
    CompositeId.readPieces?, hdigits, readPieces?_references hrest]
  rfl

end Reading

theorem spelled_of_reference {answers : Table (Starts Nat)} {m : Member}
    (h : m.reference answers = toString m.id) : m.spelled answers = none := by
  have htext := congrArg String.toList h
  rw [toList_reference, toList_toString, List.append_right_eq_self] at htext
  cases hspelled : m.spelled answers with
  | none => rfl
  | some e =>
    rw [hspelled] at htext
    cases htext

theorem id_lt_of_slot {answers : Table (Starts Nat)} (hids : ∀ k ∈ answers.keys, k < idLimit)
    {m : Member} (h : (answers.get? m.id).bind (·.get m.direction) = some m.length) :
    m.id < idLimit := by
  obtain ⟨starts, hstarts, -⟩ := Option.bind_eq_some_iff.mp h
  exact hids m.id (Table.mem_keys_iff.mpr (by rw [hstarts]; rfl))

-- The clue's number with what is put in front of its text stands for the same answers. They are answers
-- of the grid, as their ids say, and a direction is left out only where there is no other one.
theorem resolve_read_prefixText {answers : Table (Starts Nat)}
    (hids : ∀ k ∈ answers.keys, k < idLimit) {d : Direction} {composite : CompositeId}
    (hchildren : composite.children ≠ []) {ms : List Member}
    (h : resolve answers d composite = .ok ms) :
    (∃ composite',
      CompositeId.read (toString composite.primary ++ prefixText answers ms).toList =
        .ok composite' ∧ resolve answers d composite' = .ok ms) ∧
    (∀ m ∈ ms, (answers.get? m.id).bind (·.get m.direction) = some m.length) ∧
    ∃ first rest, ms = first :: rest ∧ first.id = composite.primary ∧ first.direction = d ∧
      List.Forall₂ (Named answers d) composite.children rest ∧
      ∀ m ∈ rest, m.reference answers = toString m.id → m.Sole answers := by
  obtain ⟨first, rest, rfl, hfirst, hnamed⟩ := resolve_ok_iff.mp h
  obtain ⟨hid, hdirection, hslot⟩ := member_ok_iff.mp hfirst
  have hslots := slots_of_named hnamed
  have hne : rest ≠ [] := by
    rintro rfl
    exact hchildren (List.forall₂_nil_right_iff.mp hnamed)
  have hread := @read_prefixText answers first rest (id_lt_of_slot hids hslot)
    (fun m hm => id_lt_of_slot hids (hslots m hm)) hne
  have hresolve : resolve answers d ⟨first.id, rest.map fun m => (m.id, m.spelled answers)⟩ =
      .ok (first :: rest) := by
    refine resolve_ok_iff.mpr ⟨first, rest, rfl, ?_, ?_⟩
    · rw [hid]
      exact hfirst
    · rw [List.forall₂_map_left_iff]
      exact List.forall₂_same.mpr fun m hm => named_spelled (hslots m hm)
  rw [← hid]
  exact ⟨⟨_, hread, hresolve⟩, List.forall_mem_cons.mpr ⟨hslot, hslots⟩, first, rest, rfl, rfl,
    hdirection, hnamed, fun m hm hreference =>
      (spelled_eq_none_iff (hslots m hm)).mp (spelled_of_reference hreference)⟩

-- Both answers start at 3, and 7 has one of its own.
def crossing : Table (Starts Nat) := .ofList [(1, ⟨some 4, none⟩), (3, ⟨some 5, some 6⟩), (7, ⟨none, some 3⟩)]

theorem resolve_read_prefixText_crossing :
    resolve crossing .across ⟨1, [(7, none), (3, some .down), (3, none)]⟩ =
        .ok [⟨1, .across, 4⟩, ⟨7, .down, 3⟩, ⟨3, .down, 6⟩, ⟨3, .across, 5⟩] ∧
      ∃ composite, CompositeId.read "1,7,3 down,3 across".toList = .ok composite ∧
        resolve crossing .across composite =
          .ok [⟨1, .across, 4⟩, ⟨7, .down, 3⟩, ⟨3, .down, 6⟩, ⟨3, .across, 5⟩] := by
  have h : resolve crossing .across ⟨1, [(7, none), (3, some .down), (3, none)]⟩ =
      .ok [⟨1, .across, 4⟩, ⟨7, .down, 3⟩, ⟨3, .down, 6⟩, ⟨3, .across, 5⟩] := by decide
  exact ⟨h, (resolve_read_prefixText (by decide) (by decide) h).1⟩

end Cruciverb.Import
