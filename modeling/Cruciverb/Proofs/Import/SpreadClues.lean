import Cruciverb.Proofs.Answer.Display
import Cruciverb.Proofs.Import.Distribution
import Cruciverb.Proofs.Import.ExportLines
import Cruciverb.Proofs.Import.SequencePrefix

namespace Cruciverb.Import

open Cruciverb.Answer Cruciverb.Text

theorem amount_of_mem_zip {f g : Format} {ms : List Member} {fs : List Format} {m : Member}
    (h : Partition f ms fs) (hmem : (m, g) ∈ ms.zip fs) : amount g.parts = m.length := by
  have hamounts := map_eq_map_iff_forall₂.mp (List.map_map.symm.trans h.cut.amounts)
  exact List.forall₂_zip (R := fun m g => amount (Phrase.parts g) = m.length) hamounts.flip hmem

theorem exists_of_mem_memberClues {answers : Table (Starts Nat)} {d : Direction} {primary : Nat}
    {clue : ListedClue} {ms : List Member} {fs : List Format} {w : Member × ResolvedClue}
    (h : w ∈ memberClues answers d primary clue ms fs) :
    ∃ f, (w.1, f) ∈ ms.zip fs ∧ w.2.format = String.ofList f.text := by
  rw [memberClues] at h
  split at h
  · cases h
  · next first f others hzip =>
    rw [hzip]
    rcases List.mem_cons.mp h with rfl | h
    · exact ⟨f, List.mem_cons_self, rfl⟩
    · obtain ⟨⟨m, g⟩, hmem, rfl⟩ := List.mem_map.mp h
      exact ⟨g, List.mem_cons_of_mem _ hmem, rfl⟩

namespace Spread

variable {answers : Table (Starts Nat)} {listed : Direction × ListedClue} {x : Spread}

theorem Of.slots (h : x.Of answers listed) :
    ∀ m ∈ x.members, (answers.get? m.id).bind (·.get m.direction) = some m.length := by
  obtain ⟨composite, -, -, hresolve⟩ := h.members
  obtain ⟨first, rest, hms, hfirst, hnamed⟩ := resolve_ok_iff.mp hresolve
  rw [hms, List.forall_mem_cons]
  exact ⟨(member_ok_iff.mp hfirst).2.2, slots_of_named hnamed⟩

theorem Of.partition (h : x.Of answers listed) :
    ∃ whole, Format.ofString x.clue.format = .ok whole ∧ Partition whole x.members x.formats := by
  obtain ⟨whole, hwhole, hdistribute⟩ := h.formats
  exact ⟨whole, hwhole, partition_of_distribute hdistribute⟩

-- The first member is the answer that the clue is listed for, and every member has a format.
theorem Of.writes_eq (h : x.Of answers listed) : ∃ first rest f fs,
    x.members = first :: rest ∧ x.formats = f :: fs ∧ rest.length = fs.length ∧
      first.key = (x.primary, x.direction) ∧
      x.writes answers =
        (first, ⟨x.clue.text, String.ofList f.text, some (prefixText answers x.members)⟩) ::
          (rest.zip fs).map fun (m, g) =>
            (m, ⟨reference x.primary x.direction, String.ofList g.text, none⟩) := by
  obtain ⟨composite, -, hprimary, hresolve⟩ := h.members
  obtain ⟨first, rest, hms, hfirst, -⟩ := resolve_ok_iff.mp hresolve
  obtain ⟨hid, hdirection, -⟩ := member_ok_iff.mp hfirst
  obtain ⟨whole, -, hpartition⟩ := h.partition
  have hlength := hpartition.length
  rw [hms, List.length_cons] at hlength
  obtain ⟨f, fs, hfs⟩ := List.exists_cons_of_length_eq_add_one hlength
  rw [hfs, List.length_cons] at hlength
  refine ⟨first, rest, f, fs, hms, hfs, by omega, ?_, ?_⟩
  · rw [Member.key, hid, hdirection, hprimary]
  · rw [writes, memberClues, hms, hfs, List.zip_cons_cons]

theorem Of.keys_writes (h : x.Of answers listed) :
    (x.writes answers).map (·.1.key) = x.keys := by
  obtain ⟨first, rest, f, fs, hms, -, hlength, -, hwrites⟩ := h.writes_eq
  rw [hwrites, keys, hms, List.map_cons, List.map_cons, List.map_map]
  have hzip := List.map_fst_zip (Nat.le_of_eq hlength)
  conv_rhs => rw [← hzip, List.map_map]
  rfl

-- Each member has the clue that is meant for it.
structure Kept (answers : Table (Starts Nat)) (t : ClueTable) (x : Spread) : Prop where
  length : x.formats.length = x.members.length
  first : ∃ f, x.formats.head? = some f ∧ (t.get x.direction).get? x.primary =
    some ⟨x.clue.text, String.ofList f.text, some (prefixText answers x.members)⟩
  later : ∀ i m f, x.members[i + 1]? = some m → x.formats[i + 1]? = some f →
    (t.get m.direction).get? m.id =
      some ⟨reference x.primary x.direction, String.ofList f.text, none⟩

theorem Of.kept (h : x.Of answers listed) {t : ClueTable}
    (hget : ∀ w ∈ x.writes answers, (t.get w.1.direction).get? w.1.id = some w.2) :
    x.Kept answers t := by
  obtain ⟨first, rest, f, fs, hms, hfs, hlength, hkey, hwrites⟩ := h.writes_eq
  rw [hwrites, List.forall_mem_cons, List.forall_mem_map] at hget
  refine ⟨?_, ⟨f, ?_, ?_⟩, fun i m g hm hg => ?_⟩
  · rw [hms, hfs, List.length_cons, List.length_cons, hlength]
  · rw [hfs, List.head?_cons]
  · obtain ⟨hid, hdirection⟩ := Prod.mk.inj hkey
    rw [← hid, ← hdirection]
    exact hget.1
  · rw [hms, List.getElem?_cons_succ] at hm
    rw [hfs, List.getElem?_cons_succ] at hg
    exact hget.2 (m, g) (List.mem_of_getElem? (List.getElem?_zip_eq_some.mpr ⟨hm, hg⟩))

end Spread

section Table

variable {answers : Table (Starts Nat)} {listed : Both (List ListedClue)} {xs : List Spread}

theorem mem_keys_of_mem_writes (hxs : List.Forall₂ (Spread.Of answers) (composites listed) xs)
    {x : Spread} (hx : x ∈ xs) {w : Member × ResolvedClue} (hw : w ∈ x.writes answers) :
    w.1.key ∈ x.keys := by
  rw [← (exists_of_forall₂_composites hxs hx).2.keys_writes]
  exact List.mem_map_of_mem hw

-- Where no other clue takes the places of the members, it does not matter in what order they are put.
theorem kept_of_disjoint (hxs : List.Forall₂ (Spread.Of answers) (composites listed) xs)
    (plain : ClueTable) {front back : List Spread} {x : Spread} (hsplit : xs = front ++ x :: back)
    (hnodup : x.keys.Nodup) (hapart : ∀ y ∈ front ++ back, x.keys.Disjoint y.keys) :
    x.Kept answers (putMembers plain (xs.flatMap (Spread.writes answers))) := by
  have hmem : ∀ y ∈ front ++ back, y ∈ xs := by
    intro y hy
    rw [hsplit]
    simp only [List.mem_append, List.mem_cons] at hy ⊢
    tauto
  have hx : x ∈ xs := by
    rw [hsplit]
    simp
  have hof := (exists_of_forall₂_composites hxs hx).2
  refine hof.kept fun w hw => ?_
  obtain ⟨v, hv, hkey, hget⟩ :=
    exists_get?_putMembers plain (List.mem_flatMap.mpr ⟨x, hx, hw⟩)
  obtain ⟨y, hy, hvy⟩ := List.mem_flatMap.mp hv
  have hwx := mem_keys_of_mem_writes hxs hx hw
  have hyx : y = x ∨ y ∈ front ++ back := by
    rw [hsplit] at hy
    simp only [List.mem_append, List.mem_cons] at hy ⊢
    tauto
  rcases hyx with rfl | hyother
  · rw [← hof.keys_writes] at hnodup
    rw [hget, List.inj_on_of_nodup_map hnodup hvy hw hkey]
  · have hvkey := mem_keys_of_mem_writes hxs hy hvy
    rw [hkey] at hvkey
    exact absurd hvkey (hapart y hyother hwx)

end Table

section Lines

variable {s : Shape} {numbers : Table Coord} {listed : Both (List ListedClue)} {t : ClueTable}

theorem length_eq_of_slot {id : Nat} {d : Direction} {slot : List Char} {length : Nat}
    (hslot : (((numbers.map s.startsAt).get? id).getD ⟨none, none⟩).get d = some slot)
    (h : (((numbers.map s.startsAt).map Starts.lengths).get? id).bind (·.get d) = some length) :
    length = slot.length ∧ 0 < slot.length ∧ slot.length ≤ s.size := by
  rw [Table.get?_map, Table.get?_map] at h
  rw [Table.get?_map] at hslot
  cases hc : numbers.get? id with
  | none =>
    rw [hc] at h
    cases h
  | some c =>
    rw [hc, Option.map_some, Option.getD_some] at hslot
    rw [hc, Option.map_some, Option.map_some, Option.bind_some, Starts.lengths, Both.get_map,
      hslot, Option.map_some, Option.some.injEq] at h
    rw [Shape.get_startsAt] at hslot
    split at hslot
    · next hstarts =>
      obtain rfl := Option.some.inj hslot
      exact ⟨h.symm, List.length_pos_iff.mpr (Shape.scan_ne_nil hstarts),
        Shape.length_scan_le_size hstarts⟩
    · cases hslot

-- Whichever clue has come to stand at a member, its format fits the answer.
theorem answerLine_of_mem_keys (hsize : s.size < wordLimit) (plain : ClueTable) {xs : List Spread}
    (hxs : List.Forall₂ (Spread.Of ((numbers.map s.startsAt).map Starts.lengths))
      (composites listed) xs) {x : Spread} (hx : x ∈ xs) {id : Nat} {d : Direction}
    (hkey : (id, d) ∈ x.keys) (position : Coord) {slot : List Char}
    (hslot : (((numbers.map s.startsAt).get? id).getD ⟨none, none⟩).get d = some slot) :
    ∃ line, answerLine (putMembers plain (xs.flatMap
      (Spread.writes ((numbers.map s.startsAt).map Starts.lengths)))) id position d slot = .ok line := by
  rw [← (exists_of_forall₂_composites hxs hx).2.keys_writes] at hkey
  obtain ⟨w, hw, hwkey⟩ := List.mem_map.mp hkey
  obtain ⟨v, hv, hvkey, hget⟩ :=
    exists_get?_putMembers plain (List.mem_flatMap.mpr ⟨x, hx, hw⟩)
  obtain ⟨rfl, rfl⟩ := Prod.mk.inj hwkey
  obtain ⟨y, hy, hvy⟩ := List.mem_flatMap.mp hv
  have hof := (exists_of_forall₂_composites hxs hy).2
  obtain ⟨whole, -, hpartition⟩ := hof.partition
  obtain ⟨f, hzip, hformat⟩ := exists_of_mem_memberClues hvy
  have hlength := hof.slots v.1 (List.of_mem_zip hzip).1
  obtain ⟨hid, hdirection⟩ := Prod.mk.inj hvkey
  rw [hid, hdirection] at hlength
  obtain ⟨hslotLength, hpos, hle⟩ := length_eq_of_slot hslot hlength
  have hamount : amount f.parts = slot.length :=
    (amount_of_mem_zip hpartition hzip).trans hslotLength
  have hparts : f.parts ≠ [] := by
    intro hnil
    rw [hnil, amount_nil] at hamount
    omega
  have hread : Format.ofString v.2.format = .ok f := by
    rw [hformat, Format.ofString, String.toList_ofList, Format.read_text hparts]
  exact ⟨_, answerLine_of_format hget hread ⟨hamount, Nat.lt_of_le_of_lt hle hsize⟩⟩

-- A clue for several answers that shares no member with another one has all of its members, in the order of
-- its number. What is nobody's member has the last clue that is listed for it alone. And the line of a
-- member can always be written, so that nothing is refused because of one.
theorem resolveClues_spreads (hsize : s.size < wordLimit)
    (h : resolveClues ((numbers.map s.startsAt).map Starts.lengths) listed = .ok t) :
    ∃ xs : List Spread,
      List.Forall₂ (Spread.Of ((numbers.map s.startsAt).map Starts.lengths)) (composites listed) xs ∧
      (∀ front x back, xs = front ++ x :: back → x.keys.Nodup →
        (∀ y ∈ front ++ back, x.keys.Disjoint y.keys) →
        x.Kept ((numbers.map s.startsAt).map Starts.lengths) t) ∧
      (∀ d id, (∀ x ∈ xs, (id, d) ∉ x.keys) →
        (t.get d).get? id = plainClue? (listed.get d) id) ∧
      ∀ x ∈ xs, ∀ id d, (id, d) ∈ x.keys →
        (∀ position slot, (((numbers.map s.startsAt).get? id).getD ⟨none, none⟩).get d = some slot →
          ∃ line, answerLine t id position d slot = .ok line) ∧
        ∀ e, exportLines t (numbers.map s.startsAt) numbers.entries = .error (.refused e) →
          ¬ Unwritten id d e := by
  obtain ⟨plain, xs, hplain, hxs, rfl⟩ := resolveClues_ok h
  refine ⟨xs, hxs, fun front x back => kept_of_disjoint hxs plain, fun d id hnone => ?plain,
    fun x hx id d hkey => ⟨fun position slot => answerLine_of_mem_keys hsize plain hxs hx hkey position,
      fun e herror hunwritten => ?written⟩⟩
  case plain =>
    rw [get?_putMembers_of_forall_ne, hplain]
    intro w hw hkey
    obtain ⟨x, hx, hw⟩ := List.mem_flatMap.mp hw
    exact hnone x hx (hkey ▸ mem_keys_of_mem_writes hxs hx hw)
  case written =>
    obtain ⟨number, -, d', slot, hslot, hanswer⟩ := exportLines_error herror
    obtain ⟨rfl, rfl⟩ : number.1 = id ∧ d' = d := by
      cases hunwritten <;> cases answerLine_refused hanswer <;> exact ⟨rfl, rfl⟩
    obtain ⟨line, hline⟩ := answerLine_of_mem_keys hsize plain hxs hx hkey number.2 hslot
    rw [hline] at hanswer
    cases hanswer

-- A grid without blocks, whose first and last rows share a clue.
def squareNumbers : Table Coord :=
  .ofList [(1, ⟨1, 1⟩), (2, ⟨2, 1⟩), (3, ⟨3, 1⟩), (4, ⟨1, 2⟩), (5, ⟨1, 3⟩)]

def squareAnswers : Table (Starts Nat) := (squareNumbers.map (Shape.ofSize 3).startsAt).map Starts.lengths

def squareListed : Both (List ListedClue) where
  across := [⟨"1,5", "3,1-2", "Whole"⟩, ⟨"5", "3", "Taken over"⟩]
  down := [⟨"2", "x", "Old"⟩, ⟨"2", "3", "New"⟩]

theorem resolveClues_spreads_square :
    ∃ t, resolveClues squareAnswers squareListed = .ok t ∧
      (∃ x : Spread, x.members = [⟨1, .across, 3⟩, ⟨5, .across, 3⟩] ∧ x.Kept squareAnswers t) ∧
      (t.get .down).get? 2 = some ⟨"New", "3", none⟩ ∧
      exportLines t (squareNumbers.map (Shape.ofSize 3).startsAt) squareNumbers.entries ≠
        .error (.refused (.missingClue 5 .across)) := by
  have hok : (resolveClues squareAnswers squareListed).toOption.isSome = true := by decide +kernel
  cases h : resolveClues squareAnswers squareListed with
  | error e =>
    rw [h] at hok
    cases hok
  | ok t =>
    obtain ⟨xs, hxs, hkept, hplain, hwritten⟩ := resolveClues_spreads (by decide) h
    have hcomposites : composites squareListed = [(.across, ⟨"1,5", "3,1-2", "Whole"⟩)] := by
      decide +kernel
    rw [hcomposites] at hxs
    obtain ⟨x, rest, hof, hrest, rfl⟩ := List.forall₂_cons_left_iff.mp hxs
    obtain rfl := List.forall₂_nil_left_iff.mp hrest
    have hmembers : x.members = [⟨1, .across, 3⟩, ⟨5, .across, 3⟩] := by
      obtain ⟨composite, hread, -, hresolve⟩ := hof.members
      rw [hof.clue] at hread
      rw [hof.direction] at hresolve
      obtain rfl : composite = ⟨1, [(5, none)]⟩ := by
        have hnumber : CompositeId.read "1,5".toList = .ok ⟨1, [(5, none)]⟩ := by decide +kernel
        exact Except.ok.inj (hread.symm.trans hnumber)
      have hsequence : resolve squareAnswers .across ⟨1, [(5, none)]⟩ =
          .ok [⟨1, .across, 3⟩, ⟨5, .across, 3⟩] := by decide +kernel
      exact Except.ok.inj (hresolve.symm.trans hsequence)
    have hkeys : x.keys = [(1, .across), (5, .across)] := by
      rw [Spread.keys, hmembers]
      rfl
    refine ⟨t, rfl, ⟨x, hmembers, hkept [] x [] rfl (by rw [hkeys]; decide) (by simp)⟩, ?_, ?_⟩
    · rw [hplain .down 2 (by simp [hkeys])]
      decide +kernel
    · intro herror
      exact (hwritten x List.mem_cons_self 5 .across (by simp [hkeys])).2 _ herror .missingClue

end Lines

end Cruciverb.Import
