import Cruciverb.Proofs.Answer.Cutting
import Cruciverb.Proofs.Document.Legible
import Cruciverb.Proofs.Import.ClueTable
import Cruciverb.Proofs.Puzzle.Drawing
import Cruciverb.Proofs.Text.Collapsed
import Cruciverb.Proofs.Traversal

namespace Cruciverb.Import

open Cruciverb.Answer Cruciverb.Text

-- What goes before the text of a clue is a list of the answers that belong to it.
def ResolvedClue.Sequenced (clue : ResolvedClue) : Prop :=
  ∀ others, clue.sequence = some others → ∃ lengths ms, others = prefixText lengths ms

-- A clue has a text that was given, behind the others of its sequence if it is the first of one, or it
-- points to the first.
structure ResolvedClue.From (given : String → Prop) (clue : ResolvedClue) : Prop where
  sequenced : clue.Sequenced
  text : given clue.text ∨ ∃ primary d, clue.text = reference primary d ∧ clue.sequence = none

theorem from_resolveClues {answers : Table (Starts Nat)} {listed : Both (List ListedClue)}
    {t : ClueTable} {given : String → Prop} (hlisted : ∀ d, ∀ clue ∈ listed.get d, given clue.text)
    (h : resolveClues answers listed = .ok t) : t.All (ResolvedClue.From given) := by
  have halone (text format : String) : (⟨text, format, none⟩ : ResolvedClue).Sequenced :=
    fun _ hothers => by cases hothers
  refine all_resolveClues (fun d clue hclue => ⟨halone _ _, .inl (hlisted d clue hclue)⟩) ?_ h
  intro d clue hclue primary sequence formats
  rw [memberClues]
  split
  · simp
  · simp only [List.forall_mem_cons, List.forall_mem_map]
    constructor
    · exact ⟨fun others hothers => ⟨_, _, (Option.some.inj hothers).symm⟩, .inl (hlisted d clue hclue)⟩
    · exact fun m _ => ⟨halone _ _, .inr ⟨primary, d, rfl, rfl⟩⟩

-- What is listed for a slot: some text, and lengths that cut the letters into words.
structure ResolvedClue.Suits (clue : ResolvedClue) (slot : List Char) : Prop where
  text_ne : clue.text ≠ ""
  collapsed : collapse clue.text.toList = clue.text.toList
  noComment : '#' ∉ clue.text.toList
  sequence : clue.Sequenced
  format : ∃ f, Format.ofString clue.format = .ok f ∧ (∀ n ∈ f.parts, 0 < n.toNat) ∧
    (f.parts.map UInt64.toNat).sum = slot.length

theorem whole_intercalate {sep : Char} (hsep : isLineEnd sep = false ∧ sep ≠ '#')
    {ls : List (List Char)} (h : ∀ l ∈ ls, Whole l) : Whole ([sep].intercalate ls) := by
  constructor
  · intro c hc
    rcases mem_intercalate hc with rfl | ⟨l, hl, hc⟩
    · exact hsep.1
    · exact (h l hl).noLineEnd c hc
  · intro hc
    rcases mem_intercalate hc with heq | ⟨l, hl, hc⟩
    · exact hsep.2 heq.symm
    · exact (h l hl).noComment hc

theorem whole_reference (answers : Table (Starts Nat)) (m : Member) :
    Whole (m.reference answers).toList := by
  have hid : Whole (toString m.id).toList := by
    rw [toList_toString]
    exact ClueLine.whole_toDigits m.id
  have hname : Whole m.direction.name.toList := by
    cases m.direction <;> decide
  rw [Member.reference]
  split
  · exact hid
  · rw [Member.label, String.toList_append, String.toList_append, whole_append, whole_append]
    exact ⟨⟨hid, by decide⟩, hname⟩

theorem prefixText_spec (answers : Table (Starts Nat)) (ms : List Member) :
    Whole (prefixText answers ms).toList ∧ ∃ rest, (prefixText answers ms).toList = ',' :: rest := by
  have hrest : Whole (",".intercalate (ms.tail.map (Member.reference answers))).toList := by
    rw [String.toList_intercalate]
    refine whole_intercalate (by decide) (List.forall_mem_map.mpr ?_)
    exact List.forall_mem_map.mpr fun m _ => whole_reference answers m
  rw [prefixText, String.toList_append]
  exact ⟨whole_append.mpr ⟨by decide, hrest⟩, _, rfl⟩

-- What stands in front of the text of a clue changes nothing in what the text may hold.
theorem ResolvedClue.Sequenced.exists_front {clue : ResolvedClue} (h : clue.Sequenced) :
    ∃ front, clue.body.toList = front ++ clue.text.toList ∧ Whole front ∧
      ∀ c, front.head? = some c → isBlank c = false := by
  rw [ResolvedClue.body]
  split
  · next others hothers =>
    obtain ⟨lengths, ms, rfl⟩ := h others hothers
    obtain ⟨hwhole, rest, hrest⟩ := prefixText_spec lengths ms
    refine ⟨(prefixText lengths ms).toList ++ ". ".toList, ?_, whole_append.mpr ⟨hwhole, by decide⟩, ?_⟩
    · rw [String.toList_append, String.toList_append]
    · intro c hc
      rw [hrest, List.cons_append, List.head?_cons, Option.some.injEq] at hc
      rw [← hc]
      decide
  · exact ⟨[], rfl, whole_nil, fun c hc => by cases hc⟩

theorem ResolvedClue.Sequenced.isBody {clue : ResolvedClue} (h : clue.Sequenced)
    (hwhole : Whole clue.text.toList) (hne : clue.text.toList ≠ [])
    (hhead : ∀ c, clue.text.toList.head? = some c → isBlank c = false) :
    Line.IsBody clue.body.toList := by
  obtain ⟨front, hbody, hfront, hfirst⟩ := h.exists_front
  rw [hbody]
  refine { whole_append.mpr ⟨hfront, hwhole⟩ with ne_nil := by simp [hne], head := .inl ?_ }
  intro c hc
  cases front with
  | nil => exact hhead c hc
  | cons b front => exact hfirst c hc

theorem ResolvedClue.Suits.isBody {clue : ResolvedClue} {slot : List Char} (h : clue.Suits slot) :
    Line.IsBody clue.body.toList := by
  have htrimmed : Trimmed clue.text.toList := h.collapsed ▸ trimmed_collapse clue.text.toList
  refine h.sequence.isBody ⟨?_, h.noComment⟩ (by simpa using h.text_ne) htrimmed.head
  rw [← h.collapsed]
  exact noLineEnd_collapse

-- The line of one slot.
structure LineOf (id : Nat) (position : Coord) (slot : List Char) (line : ClueLine) : Prop where
  id : line.id = id
  position : line.position = position
  body : Line.IsBody line.body.toList
  answer : ∃ f : Format, f.Fills slot ∧ (∀ n ∈ f.parts, 0 < n.toNat) ∧
    line.answer = String.ofList (f.apply slot)

-- What becomes of an answer for which a clue with a format is listed.
theorem answerLine_eq {t : ClueTable} {id : Nat} {position : Coord} {d : Direction}
    {slot : List Char} {clue : ResolvedClue} {f : Format} (hget : (t.get d).get? id = some clue)
    (hf : Format.ofString clue.format = .ok f) : answerLine t id position d slot =
      if wordLimit ≤ f.size then .error (.fault .overflow)
      else if f.size = slot.length then .ok ⟨position, id, clue.body, String.ofList (f.apply slot)⟩
      else .error (.refused (.formatLengthMismatch id d clue.format slot.length)) := by
  simp only [answerLine, hget, hf]
  split
  · next hnone => rw [if_pos (Format.total?_eq_none_iff.mp hnone)]
  · next total htotal =>
    obtain ⟨rfl, hlt⟩ := Format.total?_eq_some_iff.mp htotal
    rw [if_neg (Nat.not_le_of_lt hlt), Format.applied?_eq hlt]

theorem answerLine_of_format {t : ClueTable} {id : Nat} {position : Coord} {d : Direction}
    {slot : List Char} {clue : ResolvedClue} {f : Format} (hget : (t.get d).get? id = some clue)
    (hf : Format.ofString clue.format = .ok f) (h : f.Fills slot) : answerLine t id position d slot =
      .ok ⟨position, id, clue.body, String.ofList (f.apply slot)⟩ := by
  have hsize : f.size = slot.length := h.1
  rw [answerLine_eq hget hf, if_neg (by rw [hsize]; exact Nat.not_le_of_lt h.2), if_pos hsize]

theorem answerLine_of_suits {t : ClueTable} {id : Nat} {position : Coord} {d : Direction}
    {slot : List Char} {clue : ResolvedClue} (hget : (t.get d).get? id = some clue)
    (h : clue.Suits slot) (hlt : slot.length < wordLimit) :
    ∃ line, answerLine t id position d slot = .ok line ∧ LineOf id position slot line := by
  obtain ⟨f, hf, hpos, hsum⟩ := h.format
  exact ⟨⟨position, id, clue.body, String.ofList (f.apply slot)⟩,
    answerLine_of_format hget hf ⟨hsum, hlt⟩,
    rfl, rfl, h.isBody, f, ⟨hsum, hlt⟩, hpos, rfl⟩

-- The line for a number in a direction, if an answer starts there.
def exportLine? (t : ClueTable) (answers : Table (Starts (List Char))) (d : Direction)
    (number : Nat × Coord) : Option ClueLine :=
  (((answers.get? number.1).getD ⟨none, none⟩).get d).bind fun slot =>
    (answerLine t number.1 number.2 d slot).toOption

variable {t : ClueTable}

theorem directionLines_error_iff {id : Nat} {position : Coord} {starts : Starts (List Char)}
    {d : Direction} {e : Failure} : directionLines t id position starts d = .error e ↔
      ∃ slot, starts.get d = some slot ∧ answerLine t id position d slot = .error e := by
  rw [directionLines]
  cases starts.get d with
  | none => simp
  | some slot => cases h : answerLine t id position d slot <;> simp [h]

theorem directionLines_ok_iff {id : Nat} {position : Coord} {starts : Starts (List Char)}
    {d : Direction} : (∃ lines, directionLines t id position starts d = .ok lines) ↔
      ∀ slot, starts.get d = some slot → ∃ line, answerLine t id position d slot = .ok line := by
  rw [directionLines]
  cases starts.get d with
  | none => simp
  | some slot => cases h : answerLine t id position d slot <;> simp [h]

theorem numberLines_ok_iff {id : Nat} {position : Coord} {starts : Starts (List Char)}
    {lines : Both (List ClueLine)} : numberLines t id position starts = .ok lines ↔
      ∀ d, directionLines t id position starts d = .ok (lines.get d) := by
  obtain ⟨across, down⟩ := lines
  rw [Direction.forall_iff, numberLines]
  cases directionLines t id position starts .across with
  | error e => simp
  | ok first => cases directionLines t id position starts .down <;> simp [Both.get]

-- The line across comes first.
theorem numberLines_error_iff {id : Nat} {position : Coord} {starts : Starts (List Char)}
    {e : Failure} : numberLines t id position starts = .error e ↔
      FirstIn (fun d => ∃ lines, directionLines t id position starts d = .ok lines)
        (directionLines t id position starts · = .error e) Direction.all := by
  rw [numberLines, FirstIn.directions_iff]
  cases directionLines t id position starts .across with
  | error e => simp
  | ok first => cases directionLines t id position starts .down <;> simp

theorem exists_numberLines_iff {id : Nat} {position : Coord} {starts : Starts (List Char)} :
    (∃ lines, numberLines t id position starts = .ok lines) ↔
      ∀ d slot, starts.get d = some slot → ∃ line, answerLine t id position d slot = .ok line := by
  simp only [← directionLines_ok_iff, numberLines_ok_iff]
  constructor
  · rintro ⟨lines, hlines⟩ d
    exact ⟨_, hlines d⟩
  · intro h
    choose lines hlines using h
    exact ⟨Both.of lines, fun d => by rw [hlines d, Both.get_of]⟩

theorem numberLines_eq {id : Nat} {position : Coord} {starts : Starts (List Char)}
    (h : ∀ d slot, starts.get d = some slot → ∃ line, answerLine t id position d slot = .ok line) :
    numberLines t id position starts = .ok (Both.of fun d =>
      ((starts.get d).bind fun slot => (answerLine t id position d slot).toOption).toList) := by
  refine numberLines_ok_iff.mpr fun d => ?_
  rw [Both.get_of, directionLines]
  cases hslot : starts.get d with
  | none => rfl
  | some slot =>
    obtain ⟨line, hline⟩ := h d slot hslot
    simp only [Option.bind_some, hline]
    rfl

theorem exportLines_eq {answers : Table (Starts (List Char))} {numbers : List (Nat × Coord)}
    (h : ∀ e ∈ numbers, ∀ d slot, ((answers.get? e.1).getD ⟨none, none⟩).get d = some slot →
      ∃ line, answerLine t e.1 e.2 d slot = .ok line) :
    exportLines t answers numbers = .ok (Both.of fun d => numbers.filterMap (exportLine? t answers d)) := by
  induction numbers with
  | nil => rfl
  | cons e numbers ih =>
    obtain ⟨id, position⟩ := e
    have hrest := ih fun e he => h e (List.mem_cons_of_mem _ he)
    rw [exportLines, numberLines_eq (h _ List.mem_cons_self), hrest]
    have hcons (d : Direction) : ((id, position) :: numbers).filterMap (exportLine? t answers d) =
        (exportLine? t answers d (id, position)).toList ++
          numbers.filterMap (exportLine? t answers d) := by
      rw [List.filterMap_cons]
      cases exportLine? t answers d (id, position) <;> rfl
    simp only [Both.of, hcons]
    rfl

theorem answerLine_inv {id : Nat} {position : Coord} {d : Direction} {slot : List Char}
    {line : ClueLine} (h : answerLine t id position d slot = .ok line) :
    ∃ clue f, (t.get d).get? id = some clue ∧ Format.ofString clue.format = .ok f ∧
      f.Fills slot ∧ line = ⟨position, id, clue.body, String.ofList (f.apply slot)⟩ := by
  cases hclue : (t.get d).get? id with
  | none => simp [answerLine, hclue] at h
  | some clue =>
    cases hf : Format.ofString clue.format with
    | error e => simp [answerLine, hclue, hf] at h
    | ok f =>
      rw [answerLine_eq hclue hf] at h
      split at h
      · cases h
      · next hlt =>
        split at h
        · next hsize =>
          have hfills : f.Fills slot := ⟨hsize, hsize ▸ Nat.lt_of_not_le hlt⟩
          exact ⟨clue, f, rfl, hf, hfills, (Except.ok.inj h).symm⟩
        · cases h

theorem exists_of_mem_numberLines {id : Nat} {position : Coord} {starts : Starts (List Char)}
    {lines : Both (List ClueLine)} (h : numberLines t id position starts = .ok lines) :
    ∀ d, ∀ line ∈ lines.get d, ∃ slot, starts.get d = some slot ∧
      answerLine t id position d slot = .ok line := by
  intro d line hline
  have hd := numberLines_ok_iff.mp h d
  rw [directionLines] at hd
  split at hd
  · rw [← Except.ok.inj hd] at hline
    cases hline
  · next slot hslot =>
    cases hanswer : answerLine t id position d slot with
    | error e =>
      rw [hanswer] at hd
      cases hd
    | ok written =>
      rw [hanswer] at hd
      rw [← Except.ok.inj hd] at hline
      obtain rfl := List.mem_singleton.mp hline
      exact ⟨slot, hslot, hanswer⟩

-- Every line is that of an answer in the grid.
theorem exists_of_mem_exportLines {answers : Table (Starts (List Char))} {numbers : List (Nat × Coord)}
    {lines : Both (List ClueLine)} (h : exportLines t answers numbers = .ok lines) :
    ∀ d, ∀ line ∈ lines.get d, ∃ e ∈ numbers, ∃ slot,
      ((answers.get? e.1).getD ⟨none, none⟩).get d = some slot ∧ answerLine t e.1 e.2 d slot = .ok line := by
  induction numbers generalizing lines with
  | nil =>
    cases h
    intro d line hline
    cases d <;> cases hline
  | cons e numbers ih =>
    obtain ⟨id, position⟩ := e
    rw [exportLines] at h
    split at h
    · cases h
    · next first hfirst =>
      split at h
      · cases h
      · next more hmore =>
        cases h
        intro d line hline
        have hmem : line ∈ first.get d ∨ line ∈ more.get d := by
          cases d <;> exact List.mem_append.mp hline
        rcases hmem with hline | hline
        · obtain ⟨slot, hslot, hanswer⟩ := exists_of_mem_numberLines hfirst d line hline
          exact ⟨_, List.mem_cons_self, slot, hslot, hanswer⟩
        · obtain ⟨e, he, hanswer⟩ := ih hmore d line hline
          exact ⟨e, List.mem_cons_of_mem _ he, hanswer⟩

-- What is wrong where the line of an answer cannot be written.
inductive Unwritten (id : Nat) (d : Direction) : Error → Prop where
  | missingClue : Unwritten id d (.missingClue id d)
  | invalidFormat (format : String) : Unwritten id d (.invalidFormat id d format)
  | formatLengthMismatch (format : String) (length : Nat) :
    Unwritten id d (.formatLengthMismatch id d format length)

theorem answerLine_refused {id : Nat} {position : Coord} {d : Direction} {slot : List Char} {e : Error}
    (h : answerLine t id position d slot = .error (.refused e)) : Unwritten id d e := by
  cases hclue : (t.get d).get? id with
  | none =>
    simp only [answerLine, hclue, Except.error.injEq, Failure.refused.injEq] at h
    exact h ▸ .missingClue
  | some clue =>
    cases hf : Format.ofString clue.format with
    | error e' =>
      simp only [answerLine, hclue, hf, Except.error.injEq, Failure.refused.injEq] at h
      exact h ▸ .invalidFormat _
    | ok f =>
      rw [answerLine_eq hclue hf] at h
      split at h
      · cases h
      · split at h
        · cases h
        · cases h
          exact .formatLengthMismatch _ _

-- The lengths of a clue are too many to be added up.
theorem answerLine_fault_iff {id : Nat} {position : Coord} {d : Direction} {slot : List Char}
    {fault : Fault} : answerLine t id position d slot = .error (.fault fault) ↔
      fault = .overflow ∧ ∃ clue f, (t.get d).get? id = some clue ∧
        Format.ofString clue.format = .ok f ∧ wordLimit ≤ f.size := by
  cases hclue : (t.get d).get? id with
  | none => simp [answerLine, hclue]
  | some clue =>
    cases hf : Format.ofString clue.format with
    | error e => simp [answerLine, hclue, hf]
    | ok f =>
      rw [answerLine_eq hclue hf]
      by_cases hsize : wordLimit ≤ f.size
      · simp [hf, hsize, eq_comm]
      · rw [if_neg hsize]
        split <;> simp [hf, hsize]

-- The lines are written number by number.
theorem stepwise_exportLines (t : ClueTable) (answers : Table (Starts (List Char))) :
    Stepwise (exportLines t answers)
      fun e => numberLines t e.1 e.2 ((answers.get? e.1).getD ⟨none, none⟩) where
  nil _ := by simp [exportLines]
  stop h := by simp only [exportLines, h]
  more {e rest lines failure} h := by
    simp only [exportLines, h]
    cases exportLines t answers rest <;> simp

-- What cannot be written is the line of an answer in the grid.
theorem exportLines_error {answers : Table (Starts (List Char))} {numbers : List (Nat × Coord)}
    {e : Failure} (h : exportLines t answers numbers = .error e) :
    ∃ number ∈ numbers, ∃ d slot, ((answers.get? number.1).getD ⟨none, none⟩).get d = some slot ∧
      answerLine t number.1 number.2 d slot = .error e := by
  obtain ⟨number, hmem, hnumber⟩ := ((stepwise_exportLines t answers).error_iff.mp h).exists_mem
  obtain ⟨d, -, hd⟩ := (numberLines_error_iff.mp hnumber).exists_mem
  exact ⟨number, hmem, d, directionLines_error_iff.mp hd⟩

section Shape

variable {s : Shape}

-- Where each number stands, and the answers that start there.
def numberPlaces (s : Shape) : Table Coord := s.numbering.map (·.position)

def numberAnswers (s : Shape) : Table (Starts (List Char)) := (numberPlaces s).map s.startsAt

theorem get?_numberAnswers {e : Nat × NumberedCell} (he : e ∈ s.numbering.entries) :
    (numberAnswers s).get? e.1 = some e.2.starts := by
  rw [numberAnswers, numberPlaces, Table.get?_map, Table.get?_map, Table.mem_entries_iff.mp he,
    Shape.starts_eq_of_mem_numbering he]
  rfl

-- Every slot has a clue that suits it.
def Describes (t : ClueTable) (s : Shape) : Prop :=
  ∀ e ∈ s.numbering.entries, ∀ d slot, e.2.starts.get d = some slot →
    ∃ clue, (t.get d).get? e.1 = some clue ∧ clue.Suits slot

-- The line of the slot that starts at a numbered cell.
def slotLine? (t : ClueTable) (d : Direction) (e : Nat × NumberedCell) : Option ClueLine :=
  (e.2.starts.get d).bind fun slot => (answerLine t e.1 e.2.position d slot).toOption

theorem length_slot_le {e : Nat × NumberedCell} (he : e ∈ s.numbering.entries) {d : Direction}
    {slot : List Char} (hslot : e.2.starts.get d = some slot) : slot.length ≤ s.size := by
  obtain ⟨hstarts, rfl⟩ := Shape.get_starts_of_mem_numbering he hslot
  exact Shape.length_scan_le_size hstarts

theorem exists_slotLine (h : Describes t s) (hsize : s.size < wordLimit) {e : Nat × NumberedCell}
    (he : e ∈ s.numbering.entries) {d : Direction} {slot : List Char}
    (hslot : e.2.starts.get d = some slot) :
    ∃ line, answerLine t e.1 e.2.position d slot = .ok line ∧ slotLine? t d e = some line ∧
      LineOf e.1 e.2.position slot line := by
  obtain ⟨clue, hget, hsuits⟩ := h e he d slot hslot
  obtain ⟨line, hline, hof⟩ := answerLine_of_suits hget hsuits
    (Nat.lt_of_le_of_lt (length_slot_le he hslot) hsize)
  refine ⟨line, hline, ?_, hof⟩
  rw [slotLine?, hslot, Option.bind_some, hline]
  rfl

theorem exportLines_numbering (h : Describes t s) (hsize : s.size < wordLimit) :
    exportLines t (numberAnswers s) (numberPlaces s).entries =
      .ok (Both.of fun d => s.numbering.entries.filterMap (slotLine? t d)) := by
  have hentries : (numberPlaces s).entries = s.numbering.entries.map fun e => (e.1, e.2.position) := rfl
  have hline (d : Direction) : (numberPlaces s).entries.filterMap (exportLine? t (numberAnswers s) d) =
      s.numbering.entries.filterMap (slotLine? t d) := by
    rw [hentries, List.filterMap_map]
    apply List.filterMap_congr
    intro e he
    rw [Function.comp_apply, exportLine?, get?_numberAnswers he]
    rfl
  have hok := @exportLines_eq t (numberAnswers s) (numberPlaces s).entries (by
    rw [hentries, List.forall_mem_map]
    intro e he d slot hslot
    rw [get?_numberAnswers he] at hslot
    obtain ⟨line, hline, -⟩ := exists_slotLine h hsize he hslot
    exact ⟨line, hline⟩)
  rw [hok]
  simp only [hline]

end Shape

end Cruciverb.Import
