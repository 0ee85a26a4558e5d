import Cruciverb.Proofs.Import.SpecLines
import Mathlib.Algebra.Order.BigOperators.Group.List

namespace Cruciverb

open Cruciverb.Answer Cruciverb.Text

namespace Text

-- No character comes of a number that has none, but the one with number 0.
theorem toNat_ofNat_eq (n : Nat) : (Char.ofNat n).toNat = n ∨ (Char.ofNat n).toNat = 0 := by
  by_cases h : n.isValidChar
  · rw [Char.ofNat, dif_pos h]
    exact .inl rfl
  · rw [Char.ofNat, dif_neg h]
    exact .inr rfl

theorem isSeparator_ofNat {n : Nat} (h : 0x2E ≤ n) : isSeparator (Char.ofNat n) = false := by
  rw [← Bool.not_eq_true]
  intro hsep
  have hnat : (Char.ofNat n).toNat = 0x2C ∨ (Char.ofNat n).toNat = 0x2D :=
    (eq_of_isSeparator hsep).imp (congrArg Char.toNat) (congrArg Char.toNat)
  rcases toNat_ofNat_eq n with heq | heq
  all_goals omega

-- What a letter is changed into comes behind the separators.
theorem isSeparator_of_mem_upper {cs : List Char} (h : ∀ c ∈ cs, isSeparator c = false) :
    ∀ c ∈ upper cs, isSeparator c = false := by
  have hruns : ∀ run ∈ upperRuns, 0x2E ≤ run.target := by decide +kernel
  have hseveral : ∀ e ∈ upperSeveral, ∀ n ∈ e.2, 0x2E ≤ n := by decide +kernel
  intro c hc
  obtain ⟨b, hb, hc⟩ := List.mem_flatMap.mp hc
  rw [changeCase] at hc
  split at hc
  · next e target hfind =>
    obtain ⟨n, hn, rfl⟩ := List.mem_map.mp hc
    exact isSeparator_ofNat (hseveral _ (List.mem_of_find?_eq_some hfind) n hn)
  · rw [List.mem_singleton] at hc
    cases hrun : upperRuns.findSome? (·.other? b) with
    | none =>
      rw [hrun] at hc
      exact hc ▸ h b hb
    | some other =>
      rw [hrun] at hc
      obtain ⟨run, hmem, hother⟩ := List.exists_of_findSome?_eq_some hrun
      rw [CaseRun.other?] at hother
      split at hother
      · cases hother
        have hle := hruns run hmem
        rw [hc]
        exact isSeparator_ofNat (by omega)
      · cases hother

end Text

namespace Import

-- The lengths that are listed for a clue: whatever else is among them does not count.
def listedLengths (item : Json) : List Nat :=
  (((item.asArray?.bind (·[2]?)).bind Json.asArray?).getD []).filterMap Json.asNat?

-- The lengths as they are written for a clue.
def listedNumeric? (item : Json) : Option String := (item.asArray?.bind (·[3]?)).bind Json.asString?

-- What a spec lists for a direction.
def listed? (v : Json) (key : String) (d : Direction) : Option Json :=
  (v.member? key).bind (·.member? d.name)

-- The answers of a direction are given for all of its clues or for none.
def GivenAnswers (v : Json) (d : Direction) (clues : Nat) (answers : List (Option Json)) : Prop :=
  listed? v "answers" d = none ∧ answers = List.replicate clues none ∨
    ∃ items, listed? v "answers" d = some (.array items) ∧ items.length = clues ∧
      answers = items.map some

-- The separators of the written lengths if these are the listed ones, and commas otherwise.
def GapsOf (numeric : Option String) (lengths : List Nat) (gaps : List Separator) : Prop :=
  (∃ s f, numeric = some s ∧ Format.ofString s = .ok f ∧ f.parts.map UInt64.toNat = lengths ∧
      gaps = f.gaps) ∨
    (∀ s f, numeric = some s → Format.ofString s = .ok f → f.parts.map UInt64.toNat ≠ lengths) ∧
      gaps = List.replicate (lengths.length - 1) .comma

-- The line of a listed clue.
structure Rebuilt (gridnums item : Json) (given : Option Json) (line : ClueLine) : Prop where
  id : ∃ parts, item = .array parts ∧ parts[0]? = some (.nat line.id)
  position : LastAt gridnums line.id line.position
  answer : ∃ letters gaps, LettersOf (listedLengths item).sum given letters ∧
    GapsOf (listedNumeric? item) (listedLengths item) gaps ∧
    Machine.apply ((listedLengths item).map UInt64.ofNat) gaps letters = some line.answer.toList ∧
    (listedLengths item ≠ [] →
      (split line.answer.toList).parts.map List.length = listedLengths item ∧
      (split line.answer.toList).parts.flatten = letters ∧
      (split line.answer.toList).gaps = gaps)

variable {d : Direction} {places : Table Coord}

theorem lengths_of_readSpecClue {item : Json} {field : String} {clue : ListedSpecClue}
    (h : readSpecClue item field = .ok clue) :
    clue.lengths = (listedLengths item).map UInt64.ofNat ∧ clue.numeric = listedNumeric? item := by
  obtain ⟨parts, text, lengths, rfl, -, -, hlengths, -, heq, hnumeric⟩ := readSpecClue_inv h
  refine ⟨?_, hnumeric⟩
  have hlisted : listedLengths (.array parts) = lengths.filterMap Json.asNat? := by
    rw [listedLengths]
    simp [Json.asArray?, hlengths]
  rw [heq, hlisted, readLengthItems, List.map_filterMap]

-- Lengths that add up to a machine word are machine words.
theorem toNat_ofNat_lengths {lengths : List Nat} (h : lengths.sum < wordLimit) :
    (lengths.map UInt64.ofNat).map UInt64.toNat = lengths := by
  rw [List.map_map]
  refine (List.map_congr_left fun n hn => ?_).trans (List.map_id _)
  exact toNat_ofNat_of_lt (Nat.lt_of_le_of_lt (List.single_le_sum (fun m _ => m.zero_le) n hn) h)

theorem gapsOf_formatOf (lengths : List UInt64) (numeric : Option String) :
    GapsOf numeric (lengths.map UInt64.toNat) (formatOf lengths numeric).gaps := by
  have hcommas : (Format.ofLengths lengths).gaps =
      List.replicate ((lengths.map UInt64.toNat).length - 1) .comma := by
    rw [List.length_map]
    rfl
  unfold formatOf
  cases numeric with
  | none => exact .inr ⟨by simp, hcommas⟩
  | some s =>
    dsimp only
    split
    · next f hread =>
      split
      · next hparts => exact .inl ⟨s, f, rfl, hread, by rw [hparts], rfl⟩
      · next hparts =>
        refine .inr ⟨fun s' f' hs hf heq => hparts ?_, hcommas⟩
        cases hs
        cases hread.symm.trans hf
        exact List.map_injective_iff.mpr (fun _ _ => UInt64.toNat_inj.mp) heq
    · next hread =>
      refine .inr ⟨fun s' f' hs hf => ?_, hcommas⟩
      cases hs
      cases hread.symm.trans hf

theorem free_of_lettersOf {count : Nat} {given : Option Json} {letters : List Char}
    (h : LettersOf count given letters)
    (hfree : ∀ s, given = some (.string s) → ∀ c ∈ s.toList, isSeparator c = false) :
    ∀ c ∈ letters, isSeparator c = false := by
  cases given with
  | none =>
    intro c hc
    rw [LettersOf] at h
    rw [h] at hc
    rw [List.eq_of_mem_replicate hc]
    rfl
  | some v =>
    obtain ⟨s, rfl, rfl⟩ := h
    exact isSeparator_of_mem_upper (hfree s rfl)

theorem rebuilt_of_specClueLine {gridnums item : Json} {given : Option Json} {line : ClueLine}
    (hplaces : readGridnums gridnums = .ok places) (h : specClueLine d places item given = .ok line)
    (hshort : (listedLengths item).sum < wordLimit)
    (hfree : ∀ s, given = some (.string s) → ∀ c ∈ s.toList, isSeparator c = false) :
    Rebuilt gridnums item given line := by
  obtain ⟨clue, letters, hclue, hletters, hposition, hline⟩ := specClueLine_inv h
  obtain ⟨parts, -, -, hitem, hid, -⟩ := readSpecClue_inv hclue
  obtain ⟨hlengths, hnumeric⟩ := lengths_of_readSpecClue hclue
  obtain ⟨-, -, hgiven⟩ := answerLetters_inv hletters
  have hfills := fills_of_answerLetters hletters
  set f := formatOf clue.lengths clue.numeric with hf
  have hparts : f.parts = clue.lengths := parts_formatOf _ _
  have hnat : clue.lengths.map UInt64.toNat = listedLengths item := by
    rw [hlengths, toNat_ofNat_lengths hshort]
  rw [ListedSpecClue.size, hnat] at hgiven
  rw [hline]
  refine ⟨⟨parts, hitem, hid⟩, lastAt_of_get? hplaces hposition, letters, f.gaps, hgiven, ?_, ?_, ?_⟩
  · rw [← hnumeric, ← hnat]
    exact gapsOf_formatOf _ _
  · rw [← hlengths, ← hparts, String.toList_ofList]
    exact hfills.applied?_eq
  · intro hne
    have hpieces : split (f.apply letters) = f.pieces letters := by
      refine Format.split_apply_of_free (free_of_lettersOf hgiven hfree) ?_
      rw [hparts, hlengths]
      simpa using hne
    rw [String.toList_ofList, hpieces]
    refine ⟨?_, Format.flatten_cut hfills, rfl⟩
    rw [← hnat, ← hparts]
    exact Format.lengths_cut hfills

theorem givenAnswers_of_listedAnswers {v : Json} {clues : Nat} {answers : List (Option Json)}
    (h : listedAnswers v d clues = .ok answers) : GivenAnswers v d clues answers := by
  unfold listedAnswers at h
  split at h
  · next hnone =>
    cases h
    exact .inl ⟨hnone, rfl⟩
  next found hfound =>
  split at h
  · cases h
  next items hitems =>
  split at h
  · next hlength =>
    cases h
    exact .inr ⟨items, by rw [listed?, hfound, arrayItems_ok hitems], hlength, rfl⟩
  · cases h

-- Every listed clue makes a line, in order. A separator is looked up by its number and never missing.
theorem rebuilt_of_specClueLines {v gridnums : Json} {lines : List ClueLine}
    (hplaces : readGridnums gridnums = .ok places) (h : specClueLines v d places = .ok lines)
    (hshort : ∀ items, listed? v "clues" d = some (.array items) →
      ∀ item ∈ items, (listedLengths item).sum < wordLimit)
    (hfree : ∀ items, listed? v "answers" d = some (.array items) →
      ∀ s, .string s ∈ items → ∀ c ∈ s.toList, isSeparator c = false) :
    ∃ items answers, listed? v "clues" d = some (.array items) ∧
      GivenAnswers v d items.length answers ∧ lines.length = items.length ∧
      ∀ (i : Nat) item given line, items[i]? = some item → answers[i]? = some given →
        lines[i]? = some line → Rebuilt gridnums item given line := by
  obtain ⟨items, answers, hitems, hanswers, hlines⟩ := exists_of_specClueLines h
  have hgiven := givenAnswers_of_listedAnswers hanswers
  have hlength := length_listedAnswers hanswers
  refine ⟨items, answers, hitems, hgiven, ?_, fun i item given line hi ha hline => ?_⟩
  · rw [← hlines.length_eq, List.length_zip, hlength, Nat.min_self]
  · have hpair : (items.zip answers)[i]? = some (item, given) :=
      List.getElem?_zip_eq_some.mpr ⟨hi, ha⟩
    obtain ⟨hi', hpair⟩ := List.getElem?_eq_some_iff.mp hpair
    obtain ⟨hi'', hline⟩ := List.getElem?_eq_some_iff.mp hline
    have hmade := hlines.get hi' hi''
    rw [List.get_eq_getElem, List.get_eq_getElem, hpair, hline] at hmade
    refine rebuilt_of_specClueLine hplaces hmade
      (hshort items hitems item (List.mem_of_getElem? hi)) fun s hs => ?_
    subst hs
    rcases hgiven with ⟨-, rfl⟩ | ⟨given, hfound, -, rfl⟩
    · cases List.eq_of_mem_replicate (List.mem_of_getElem? ha)
    · obtain ⟨v', hv', heq⟩ := List.mem_map.mp (List.mem_of_getElem? ha)
      cases heq
      exact hfree given hfound s hv'

-- Small letters, a length that is none, an id that stands twice, and written lengths of which only the
-- first are those that are listed.
def answeredSpec : Json :=
  .object [("gridnums", .array [.array [.nat 1, .nat 2], .array [.nat 1, .nat 0]]),
    ("clues", .object [("across", .array [
      .array [.nat 1, .string "Cat", .array [.nat 3, .string "?", .nat 2], .string "3-2"],
      .array [.nat 2, .string "Fish", .array [.nat 2, .nat 1], .string "3"]])]),
    ("answers", .object [("across", .array [.string "tabby", .string "cod"])])]

theorem rebuilt_answeredSpec : ∃ gridnums places lines, answeredSpec.member? "gridnums" = some gridnums ∧
    readGridnums gridnums = .ok places ∧ specClueLines answeredSpec .across places = .ok lines ∧
    lines.map ClueLine.answer = ["TAB-BY", "CO,D"] ∧
    ∃ items answers, listed? answeredSpec "clues" .across = some (.array items) ∧
      GivenAnswers answeredSpec .across items.length answers ∧ lines.length = items.length ∧
      ∀ (i : Nat) item given line, items[i]? = some item → answers[i]? = some given →
        lines[i]? = some line → Rebuilt gridnums item given line := by
  have hplaces : readGridnums (.array [.array [.nat 1, .nat 2], .array [.nat 1, .nat 0]]) =
      .ok (Table.ofList [(1, ⟨1, 1⟩), (2, ⟨2, 1⟩), (1, ⟨1, 2⟩)]) := rfl
  have hlines : specClueLines answeredSpec .across
      (Table.ofList [(1, ⟨1, 1⟩), (2, ⟨2, 1⟩), (1, ⟨1, 2⟩)]) =
        .ok [⟨⟨1, 2⟩, 1, "Cat", "TAB-BY"⟩, ⟨⟨2, 1⟩, 2, "Fish", "CO,D"⟩] := by decide +kernel
  refine ⟨_, _, _, rfl, hplaces, hlines, rfl, rebuilt_of_specClueLines hplaces hlines ?_ ?_⟩
  · rintro items hitems item hitem
    cases hitems
    simp only [List.mem_cons, List.not_mem_nil, or_false] at hitem
    rcases hitem with rfl | rfl <;> decide
  · intro items hitems s hs
    cases hitems
    simp only [List.mem_cons, List.not_mem_nil, or_false, Json.string.injEq] at hs
    rcases hs with rfl | rfl <;> decide

end Import

end Cruciverb
