import Cruciverb.Import.LegacySpec
import Cruciverb.Proofs.Answer.Lengths
import Cruciverb.Proofs.Derived
import Cruciverb.Proofs.Document.ClueText
import Cruciverb.Proofs.Traversal

namespace Cruciverb

open Cruciverb.Answer Cruciverb.Text

namespace Text

-- All letters that have a capital come behind the capitals.
theorem upper_eq_self {cs : List Char} (h : ∀ c ∈ cs, c.toNat < 0x61) : upper cs = cs := by
  have hruns : ∀ run ∈ upperRuns, 0x61 ≤ run.first := by decide +kernel
  have hseveral : ∀ e ∈ upperSeveral, 0x61 ≤ e.1 := by decide +kernel
  have hchange : ∀ c ∈ cs, changeCase upperRuns upperSeveral c = [c] := by
    intro c hc
    have hlt := h c hc
    have hnone : upperSeveral.find? (·.1 == c.toNat) = none := by
      rw [List.find?_eq_none]
      intro e he heq
      have := hseveral e he
      rw [beq_iff_eq] at heq
      omega
    have hrun : upperRuns.findSome? (·.other? c) = none := by
      rw [List.findSome?_eq_none_iff]
      intro run hrun
      have := hruns run hrun
      rw [CaseRun.other?, if_neg]
      simp only [Bool.and_eq_true, decide_eq_true_eq]
      omega
    rw [changeCase, hnone, hrun]
    rfl
  rw [upper, List.flatMap_congr hchange]
  simp

end Text

namespace Import

open Cruciverb.Line

-- What a spec says about the letters of an answer.
def given (silent : Bool) (letters : List Char) : Option Json :=
  if silent then none else some (.string (String.ofList letters))

-- What is made of a letter.
def shown (silent : Bool) : Char → Char := if silent then fun _ => unknownLetter else id

theorem plain_shown (silent : Bool) {letters : List Char} (h : Plain letters) :
    Plain (letters.map (shown silent)) := by
  rw [Plain, List.forall_mem_map]
  intro c hc
  cases silent with
  | false => exact h c hc
  | true => exact .inl rfl

theorem answerLetters_given {d : Direction} {clue : ListedSpecClue} {letters : List Char}
    (h : Plain letters) (hlength : Machine.sum clue.lengths = some letters.length)
    (hlt : letters.length < textLimit) (silent : Bool) :
    answerLetters d clue (given silent letters) = .ok (letters.map (shown silent)) := by
  cases silent with
  | true =>
    unfold answerLetters
    rw [given, if_pos rfl, hlength]
    dsimp only
    rw [if_pos hlt]
    exact congrArg Except.ok List.map_const'.symm
  | false =>
    have hupper : upper letters = letters := by
      apply upper_eq_self
      intro c hc
      rcases h c hc with hcap | rfl
      · have := toNat_of_isCapital hcap
        omega
      · decide
    have hmap : letters.map (shown false) = letters := List.map_id letters
    unfold answerLetters
    rw [given, if_neg (by simp), hlength]
    dsimp only [Json.asString?]
    rw [String.toList_ofList, hupper, if_pos rfl, hmap]

-- The letters of an answer: what is given, in capitals, or an X for each.
def LettersOf (count : Nat) : Option Json → List Char → Prop
  | none, letters => letters = List.replicate count 'X'
  | some given, letters => ∃ s, given = .string s ∧ letters = upper s.toList

theorem asString?_eq_some {v : Json} {s : String} (h : v.asString? = some s) : v = .string s := by
  unfold Json.asString? at h
  split at h
  · cases h
    rfl
  · cases h

section Answers

variable {d : Direction} {places : Table Coord} {clue : ListedSpecClue} {given : Option Json}

-- The lengths added up, as numbers.
def ListedSpecClue.size (clue : ListedSpecClue) : Nat := (clue.lengths.map UInt64.toNat).sum

theorem answerLetters_inv {letters : List Char} (h : answerLetters d clue given = .ok letters) :
    letters.length = clue.size ∧ clue.size < wordLimit ∧ LettersOf clue.size given letters := by
  unfold answerLetters at h
  split at h
  · cases h
  next expected hsum =>
  obtain ⟨rfl, hlt⟩ := Machine.sum_eq_some_iff.mp hsum
  split at h
  · split at h
    · cases h
      exact ⟨List.length_replicate, hlt, rfl⟩
    · cases h
  split at h
  · cases h
  next s hs =>
  dsimp only at h
  split at h
  · next hlength =>
    cases h
    exact ⟨hlength, hlt, s, asString?_eq_some hs, rfl⟩
  · cases h

-- Neither the sum of the lengths nor a text of so many letters can be had.
theorem answerLetters_fault_iff {fault : Fault} :
    answerLetters d clue given = .error (.fault fault) ↔
      fault = .overflow ∧ wordLimit ≤ clue.size ∨
        fault = .tooLarge ∧ given = none ∧ textLimit ≤ clue.size ∧ clue.size < wordLimit := by
  rw [answerLetters]
  cases hsum : Machine.sum clue.lengths with
  | none =>
    have hsize : wordLimit ≤ clue.size := Machine.sum_eq_none_iff.mp hsum
    simp [hsize, Nat.not_lt_of_le hsize, eq_comm]
  | some expected =>
    obtain ⟨rfl, hlt⟩ : clue.size = expected ∧ clue.size < wordLimit := by
      obtain ⟨rfl, hlt⟩ := Machine.sum_eq_some_iff.mp hsum
      exact ⟨rfl, hlt⟩
    have hsize : ¬ wordLimit ≤ clue.size := Nat.not_le_of_lt hlt
    cases given with
    | none =>
      dsimp only
      split
      · next htext => simp [hsize, htext]
      · next htext => simp [hsize, hlt, Nat.le_of_not_lt htext, eq_comm]
    | some v =>
      dsimp only
      cases v.asString? with
      | none => simp [refusing, invalid, hsize]
      | some s =>
        dsimp only
        split <;> simp [hsize]

theorem parts_formatOf (lengths : List UInt64) (numeric : Option String) :
    (formatOf lengths numeric).parts = lengths := by
  unfold formatOf
  split
  · rfl
  split
  · split
    · next hparts => exact hparts
    · rfl
  · rfl

-- Whatever letters an answer has, they are as many as the lengths ask for.
theorem fills_of_answerLetters {letters : List Char} (h : answerLetters d clue given = .ok letters) :
    (formatOf clue.lengths clue.numeric).Fills letters := by
  obtain ⟨hlength, hlt, -⟩ := answerLetters_inv h
  rw [Format.Fills, parts_formatOf, hlength]
  exact ⟨rfl, hlt⟩

-- What becomes of an item once its letters are known.
theorem specClueLine_eq {item : Json} {letters : List Char}
    (hclue : readSpecClue item ("clues." ++ d.name) = .ok clue)
    (hletters : answerLetters d clue given = .ok letters) : specClueLine d places item given =
      match places.get? clue.id with
      | none => .error (.refused (.unresolvableId d clue.id))
      | some position => .ok ⟨position, clue.id, String.ofList clue.body,
          String.ofList ((formatOf clue.lengths clue.numeric).apply letters)⟩ := by
  cases hplace : places.get? clue.id <;>
    simp only [specClueLine, hclue, hletters, hplace, (fills_of_answerLetters hletters).applied?_eq]

theorem specClueLine_inv {item : Json} {line : ClueLine}
    (h : specClueLine d places item given = .ok line) : ∃ clue letters,
      readSpecClue item ("clues." ++ d.name) = .ok clue ∧ answerLetters d clue given = .ok letters ∧
      places.get? clue.id = some line.position ∧ line = ⟨line.position, clue.id,
        String.ofList clue.body, String.ofList ((formatOf clue.lengths clue.numeric).apply letters)⟩ := by
  cases hclue : readSpecClue item ("clues." ++ d.name) with
  | error e => simp [specClueLine, hclue] at h
  | ok clue =>
    cases hletters : answerLetters d clue given with
    | error e => simp [specClueLine, hclue, hletters] at h
    | ok letters =>
      rw [specClueLine_eq hclue hletters] at h
      split at h
      · cases h
      · next position hposition =>
        cases h
        exact ⟨clue, letters, rfl, hletters, hposition, rfl⟩

theorem specClueLine_fault_iff {item : Json} {fault : Fault} :
    specClueLine d places item given = .error (.fault fault) ↔
      ∃ clue, readSpecClue item ("clues." ++ d.name) = .ok clue ∧
        answerLetters d clue given = .error (.fault fault) := by
  cases hclue : readSpecClue item ("clues." ++ d.name) with
  | error e => simp [specClueLine, hclue]
  | ok clue =>
    cases hletters : answerLetters d clue given with
    | error e => simp [specClueLine, hclue, hletters]
    | ok letters =>
      rw [specClueLine_eq hclue hletters]
      cases places.get? clue.id <;> simp [hletters]

-- The items are taken one after the other.
theorem stepwise_specClueLinesOf (d : Direction) (places : Table Coord) :
    Stepwise (specClueLinesOf d places) fun pair => specClueLine d places pair.1 pair.2 where
  nil _ := by simp [specClueLinesOf]
  stop h := by simp only [specClueLinesOf, h]
  more {pair rest line failure} h := by
    simp only [specClueLinesOf, h]
    cases specClueLinesOf d places rest <;> simp

end Answers

-- A body that ends in no blank is told from the lengths behind it.
theorem dropTrailingFormat_append {body numeric : List Char}
    (hbody : trimEnd body = body) (hne : numeric ≠ [])
    (hnumeric : ∀ c ∈ numeric, c.isDigit = true ∨ isSeparator c = true) :
    dropTrailingFormat (body ++ [' '] ++ '(' :: (numeric ++ [')'])) = body := by
  have hparen : '(' ∉ numeric := by
    intro hmem
    rcases hnumeric _ hmem with h | h <;> exact absurd h (by decide)
  have hkept : trimEnd (body ++ [' ']) = body := by
    rw [trimEnd, List.reverse_append, List.reverse_singleton, List.singleton_append,
      List.dropWhile_cons]
    exact hbody
  have hall : numeric.all (fun c => c.isDigit || isSeparator c) = true := by
    simpa [List.all_eq_true] using hnumeric
  have hempty : numeric.isEmpty = false := by simpa using hne
  rw [dropTrailingFormat, lastGroup?_append hparen]
  simp [hkept, hall, hempty]

theorem readLengthItems_nats (ns : List Nat) :
    readLengthItems (ns.map Json.nat) = ns.map UInt64.ofNat := by
  rw [readLengthItems, List.filterMap_map]
  exact congrFun List.filterMap_eq_map ns

theorem readSpecClue_parts {id : Nat} (hid : id < idLimit) (text numeric : String)
    (lengths : List Json) (field : String) :
    readSpecClue (.array [.nat id, .string text, .array lengths, .string numeric]) field =
      .ok ⟨id, dropTrailingFormat text.toList, readLengthItems lengths, some numeric⟩ := by
  have hfilter : (some id).filter (· < idLimit) = some id := by simp [hid]
  unfold readSpecClue
  simp only [arrayItems, Json.asArray?, List.getElem?_cons_zero, Option.bind_some, Json.nat,
    Json.asNat?, hfilter]
  rfl

end Import

namespace Clue

variable {c : Clue}

-- What makes a clue come back from a spec.
structure Returns (c : Clue) : Prop where
  writable : c.toClueLine.Writable
  words : ∀ w ∈ wordsOf c.answer.toList, w ≠ []
  short : (lettersOf c.answer.toList).length < longestWord
  body : trimEnd c.body.toList = c.body.toList
  tidy : Tidy (lengthsOnly c.answer.toList)

theorem Returns.length_lt (h : c.Returns) {w : List Char} (hw : w ∈ wordsOf c.answer.toList) :
    w.length < longestWord :=
  Nat.lt_of_le_of_lt (List.sublist_flatten_of_mem hw).length_le h.short

-- The lengths in the spec of a clue, as machine words.
def specLengths (c : Clue) : List UInt64 := c.settled.wordLengths.map UInt64.ofNat

-- The format that is found for a clue.
def specFormat (c : Clue) : Format := Import.formatOf c.specLengths (some c.settled.numericOrAnswer)

-- The line that is made of the clue.
def recut (silent : Bool) (c : Clue) : ClueLine where
  position := c.position
  id := c.id
  body := c.body
  answer := String.ofList
    (c.specFormat.apply ((lettersOf c.answer.toList).map (Import.shown silent)))

@[simp] theorem recut_position (silent : Bool) : (c.recut silent).position = c.position := by
  rw [recut]

@[simp] theorem recut_id (silent : Bool) : (c.recut silent).id = c.id := by
  rw [recut]

@[simp] theorem recut_body (silent : Bool) : (c.recut silent).body = c.body := by
  rw [recut]

@[simp] theorem toClueLine_written (line : ClueLine) : (written line).toClueLine = line := rfl

theorem Returns.specLengths_eq (h : c.Returns) :
    c.specLengths = (wordsOf c.answer.toList).map fun w => UInt64.ofNat w.length := by
  rw [specLengths, wordLengths_settled h.short, List.map_map]
  rfl

theorem Returns.sum_specLengths (h : c.Returns) :
    Machine.sum c.specLengths = some (lettersOf c.answer.toList).length := by
  have hnat : c.specLengths.map UInt64.toNat = (wordsOf c.answer.toList).map List.length := by
    rw [h.specLengths_eq, List.map_map]
    exact List.map_congr_left fun w hw =>
      toNat_ofNat_of_lt (Nat.lt_trans (h.length_lt hw) (by decide))
  have hsum : (c.specLengths.map UInt64.toNat).sum = (lettersOf c.answer.toList).length := by
    rw [hnat, lettersOf, List.length_flatten]
  exact Machine.sum_eq_some_iff.mpr ⟨hsum, Nat.lt_trans h.short (by decide)⟩

theorem Returns.specFormat_spec (h : c.Returns) : c.specFormat.parts = c.specLengths ∧
    c.specFormat.gaps = (split (lengthsOnly c.answer.toList)).gaps := by
  obtain ⟨f, hread, hparts, hgaps⟩ := read_lengthsOnly h.writable.answer h.words h.tidy
    fun w hw => Nat.lt_trans (h.length_lt hw) (by decide)
  rw [← h.specLengths_eq] at hparts
  have hf : c.specFormat = f := by
    rw [specFormat, Import.formatOf, settled_numeric, Format.ofString, String.toList_ofList, hread]
    exact if_pos hparts
  rw [hf]
  exact ⟨hparts, hgaps⟩

theorem Returns.plain (h : c.Returns) : Plain (lettersOf c.answer.toList) :=
  plain_lettersOf h.writable.answer

-- The words are the same but for their letters, and so are the written lengths.
theorem Returns.recut_spec (h : c.Returns) (silent : Bool) :
    isLettered (c.recut silent).answer.toList = true ∧
      wordsOf (c.recut silent).answer.toList =
        (wordsOf c.answer.toList).map (·.map (Import.shown silent)) ∧
      lengthsOnly (c.recut silent).answer.toList = lengthsOnly c.answer.toList := by
  obtain ⟨hparts, hgaps⟩ := h.specFormat_spec
  rw [h.specLengths_eq] at hparts
  have htext : (c.recut silent).answer.toList =
      c.specFormat.apply ((lettersOf c.answer.toList).map (Import.shown silent)) :=
    String.toList_ofList
  rw [htext]
  exact lengthsOnly_apply h.writable.answer h.words h.tidy hparts hgaps
    (Nat.lt_trans h.short (by decide)) (Import.plain_shown silent h.plain)

theorem Returns.writable_recut (h : c.Returns) (silent : Bool) : (c.recut silent).Writable := by
  have hanswer : Line.isAnswer (c.recut silent).answer.toList = true := by
    rw [Line.isAnswer, (h.recut_spec silent).1, Bool.true_or]
  obtain ⟨hx, hy, hid, hbody, -⟩ := h.writable
  constructor
  · rwa [recut_position]
  · rwa [recut_position]
  · rwa [recut_id]
  · rwa [recut_body]
  · exact hanswer

theorem Returns.retells_recut (h : c.Returns) (silent : Bool) :
    c.Retells (Import.shown silent) (.written (c.recut silent)) := by
  constructor
  · rw [toClueLine_written, recut_id]
  · rw [toClueLine_written, recut_position]
  · rw [toClueLine_written, (h.recut_spec silent).2.1]

theorem Returns.numeric_ne_nil (h : c.Returns) : lengthsOnly c.answer.toList ≠ [] := by
  intro hnil
  have hanswer := isAnswer_lengthsOnly h.writable.answer h.words
  rw [hnil] at hanswer
  cases hanswer

theorem toList_specText (c : Clue) : (Spec.clue c.settled).text.toList =
    c.body.toList ++ [' '] ++ '(' :: (lengthsOnly c.answer.toList ++ [')']) := by
  rw [Spec.clue]
  simp [settled_numeric]

theorem Returns.readSpecClue_eq (h : c.Returns) (field : String) :
    Import.readSpecClue (Spec.clueJson (Spec.clue c.settled)) field =
      .ok ⟨c.id, c.body.toList, c.specLengths, some c.settled.numericOrAnswer⟩ := by
  have hread := Import.readSpecClue_parts h.writable.id_lt (Spec.clue c.settled).text
    c.settled.numericOrAnswer (c.settled.wordLengths.map Json.nat) field
  have hbody : Import.dropTrailingFormat (Spec.clue c.settled).text.toList = c.body.toList := by
    rw [toList_specText]
    exact Import.dropTrailingFormat_append h.body h.numeric_ne_nil fun _ =>
      mem_lengthsOnly h.writable.answer
  rw [hbody, Import.readLengthItems_nats] at hread
  exact hread

theorem Returns.specClueLine_eq (h : c.Returns) {d : Direction} {places : Table Coord}
    (hplace : places.get? c.id = some c.position) (silent : Bool) :
    Import.specClueLine d places (Spec.clueJson (Spec.clue c.settled))
      (Import.given silent (lettersOf c.answer.toList)) = .ok (c.recut silent) := by
  have hletters := @Import.answerLetters_given d
    ⟨c.id, c.body.toList, c.specLengths, some c.settled.numericOrAnswer⟩ _ h.plain h.sum_specLengths
    (Nat.lt_trans h.short (by decide)) silent
  rw [Import.specClueLine_eq (h.readSpecClue_eq _) hletters]
  dsimp only
  rw [hplace, String.ofList_toList]
  rfl

-- Once it is checked, the clue looks the same in a spec.
theorem Returns.specClue_recut (h : c.Returns) (silent : Bool) :
    Spec.clue (written (c.recut silent)).settled = Spec.clue c.settled :=
  (h.retells_recut silent).specClue_eq (recut_body silent) (h.recut_spec silent).2.2 h.short

end Clue

end Cruciverb
