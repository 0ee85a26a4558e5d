import Cruciverb.Proofs.Answer.Cutting

namespace Cruciverb.Answer

open Cruciverb.Text

theorem isBlank_of_isSeparator {c : Char} (h : isSeparator c = true) : isBlank c = false := by
  rcases eq_of_isSeparator h with rfl | rfl <;> decide

theorem trim_eq_self {cs : List Char} (h : ∀ c ∈ cs, isBlank c = false) : trim cs = cs :=
  Trimmed.trim_eq ⟨fun c hc => h c (List.mem_of_head? hc), fun c hc => h c (List.mem_of_getLast? hc)⟩

theorem writeLength_eq {piece : List Char} (h : piece ≠ []) :
    writeLength piece = Nat.toDigits 10 piece.length := by
  rw [writeLength, if_neg (by simpa using h), toList_toString]

variable {answer : List Char}

-- An answer that has no letters consists of lengths.
theorem isDigit_or_isSeparator (h : Line.isAnswer answer = true) (hl : ¬ isLettered answer = true)
    {c : Char} (hc : c ∈ answer) : c.isDigit = true ∨ isSeparator c = true := by
  rw [Line.isAnswer, Bool.or_eq_true, Bool.and_eq_true, List.all_eq_true] at h
  simpa using (h.resolve_left hl).2 c hc

-- A word of such an answer is a run of placeholders.
theorem eq_replicate_of_not_isLettered (h : Line.isAnswer answer = true)
    (hl : ¬ isLettered answer = true) {word : List Char} (hword : word ∈ wordsOf answer) :
    word = List.replicate word.length star := by
  obtain ⟨piece, hpiece, rfl⟩ := List.mem_map.mp hword
  rw [spell]
  split
  · rw [List.length_replicate]
  · next hnumeral =>
    have hdigits : piece.all Char.isDigit = true := by
      rw [List.all_eq_true]
      intro c hc
      obtain ⟨hmem, hsep⟩ := mem_of_mem_splitOnP hpiece c hc
      exact (isDigit_or_isSeparator h hl hmem).resolve_right (by rw [hsep]; decide)
    obtain rfl : piece = [] := by
      rw [isNumeral, hdigits] at hnumeral
      simpa using hnumeral
    rfl

-- Lengths stand for placeholders, so that no other signs are left in the words.
theorem plain_lettersOf (h : Line.isAnswer answer = true) : Plain (lettersOf answer) := by
  intro c hc
  obtain ⟨word, hword, hc⟩ := List.mem_flatten.mp hc
  by_cases hl : isLettered answer = true
  · rw [wordsOf_of_isLettered hl] at hword
    obtain ⟨hmem, hsep⟩ := mem_of_mem_splitOnP hword c hc
    rw [isLettered, Bool.and_eq_true, List.all_eq_true] at hl
    simpa [hsep] using hl.2 c hmem
  · rw [eq_replicate_of_not_isLettered h hl hword] at hc
    exact .inr (List.eq_of_mem_replicate hc)

-- The written lengths spell a placeholder for each letter.
theorem wordsOf_lengthsOnly (h : Line.isAnswer answer = true) :
    wordsOf (lengthsOnly answer) = (wordsOf answer).map (·.map fun _ => star) := by
  by_cases hl : isLettered answer = true
  · rw [wordsOf, split_lengthsOnly hl, Phrase.map, List.map_map, wordsOf_of_isLettered hl]
    apply List.map_congr_left
    intro piece _
    rw [Function.comp_apply, spell_writeLength, List.map_const']
  · rw [lengthsOnly, if_neg hl]
    refine (List.map_id _).symm.trans (List.map_congr_left fun word hword => ?_)
    rw [List.map_const', ← eq_replicate_of_not_isLettered h hl hword]
    rfl

theorem mem_lengthsOnly (h : Line.isAnswer answer = true) {c : Char} (hc : c ∈ lengthsOnly answer) :
    c.isDigit = true ∨ isSeparator c = true := by
  by_cases hl : isLettered answer = true
  · rw [lengthsOnly, if_pos hl] at hc
    rcases mem_weave hc with ⟨part, hpart, hc⟩ | hsep
    · obtain ⟨piece, -, rfl⟩ := List.mem_map.mp hpart
      exact .inl (isDigit_of_mem_writeLength hc)
    · exact .inr hsep
  · rw [lengthsOnly, if_neg hl] at hc
    exact isDigit_or_isSeparator h hl hc

-- No length is written with a zero in front.
def Tidy (numeric : List Char) : Prop := ∀ piece ∈ (split numeric).parts, piece.head? ≠ some '0'

instance (numeric : List Char) : Decidable (Tidy numeric) :=
  inferInstanceAs (Decidable (∀ piece ∈ (split numeric).parts, piece.head? ≠ some '0'))

theorem parts_lengthsOnly (h : Line.isAnswer answer = true) (hwords : ∀ w ∈ wordsOf answer, w ≠ [])
    (htidy : Tidy (lengthsOnly answer)) :
    (split (lengthsOnly answer)).parts = (wordsOf answer).map fun w => Nat.toDigits 10 w.length := by
  by_cases hl : isLettered answer = true
  · rw [split_lengthsOnly hl, wordsOf_of_isLettered hl]
    exact List.map_congr_left fun piece hpiece =>
      writeLength_eq (ne_nil_of_mem_split hl hwords hpiece)
  · have hsame : lengthsOnly answer = answer := by rw [lengthsOnly, if_neg hl]
    rw [hsame] at htidy ⊢
    rw [wordsOf, List.map_map]
    refine (List.map_id _).symm.trans (List.map_congr_left fun piece hpiece => ?_)
    have hdigits : ∀ c ∈ piece, c.isDigit = true := by
      intro c hc
      obtain ⟨hmem, hsep⟩ := mem_of_mem_splitOnP hpiece c hc
      refine (isDigit_or_isSeparator h hl hmem).resolve_right ?_
      rw [hsep]
      decide
    have hne : piece ≠ [] := by
      rintro rfl
      exact hwords _ (List.mem_map_of_mem hpiece) rfl
    have hnumeral : isNumeral piece = true := by
      rw [isNumeral, List.all_eq_true.mpr hdigits]
      simp [hne]
    rw [Function.comp_apply, spell, if_pos hnumeral, List.length_replicate,
      toDigits_ofDigitChars hdigits hne (htidy piece hpiece)]
    rfl

theorem readLength_toDigits {n : Nat} (h : n < wordLimit) :
    readLength (trim (Nat.toDigits 10 n)) = .ok (UInt64.ofNat n) := by
  rw [trim_eq_self fun c hc => isBlank_of_isDigit (isDigit_of_mem_toDigits hc), readLength,
    if_pos (isNumeral_toDigits n), readNumeral?_toDigits h]

theorem readLengths_toDigits {ns : List Nat} (h : ∀ n ∈ ns, n < wordLimit) :
    readLengths (ns.map (Nat.toDigits 10)) = .ok (ns.map UInt64.ofNat) := by
  induction ns with
  | nil => rfl
  | cons n ns ih =>
    rw [List.map_cons, readLengths, readLength_toDigits (h n List.mem_cons_self),
      ih fun m hm => h m (List.mem_cons_of_mem _ hm)]
    rfl

theorem read_of_readLengths {cs : List Char} {ns : List UInt64}
    (h : readLengths (split (trim cs)).parts = .ok ns) :
    ∃ f, Format.read cs = .ok f ∧ f.parts = ns ∧ f.gaps = (split (trim cs)).gaps := by
  unfold Format.read
  dsimp only
  split
  · next e herror =>
    rw [h] at herror
    cases herror
  · next ms hms =>
    rw [h] at hms
    cases hms
    exact ⟨_, rfl, rfl, rfl⟩

-- The written lengths are those of the words.
theorem read_lengthsOnly (h : Line.isAnswer answer = true) (hwords : ∀ w ∈ wordsOf answer, w ≠ [])
    (htidy : Tidy (lengthsOnly answer)) (hlt : ∀ w ∈ wordsOf answer, w.length < wordLimit) :
    ∃ f, Format.read (lengthsOnly answer) = .ok f ∧
      f.parts = (wordsOf answer).map (fun w => UInt64.ofNat w.length) ∧
      f.gaps = (split (lengthsOnly answer)).gaps := by
  have htrim : trim (lengthsOnly answer) = lengthsOnly answer := trim_eq_self fun c hc =>
    (mem_lengthsOnly h hc).elim isBlank_of_isDigit isBlank_of_isSeparator
  have hlengths : readLengths (split (trim (lengthsOnly answer))).parts =
      .ok ((wordsOf answer).map fun w => UInt64.ofNat w.length) := by
    have hread := @readLengths_toDigits ((wordsOf answer).map List.length) (by simpa using hlt)
    rw [List.map_map, List.map_map] at hread
    rw [htrim, parts_lengthsOnly h hwords htidy]
    exact hread
  have hread := read_of_readLengths hlengths
  rwa [htrim] at hread

theorem toNat_ofNat_of_lt {n : Nat} (h : n < wordLimit) : (UInt64.ofNat n).toNat = n :=
  UInt64.toNat_ofNat_of_lt h

-- Cutting by the lengths of words gives the words back.
theorem cut_append_flatten {front : List Char} {ws : List (List Char)}
    (hlt : (front ++ ws.flatten).length < wordLimit) :
    Format.cut (front ++ ws.flatten) front.length
      (ws.map fun w => UInt64.ofNat w.length) = ws := by
  induction ws generalizing front with
  | nil => rfl
  | cons w ws ih =>
    have hsplit : front ++ (w :: ws).flatten = front ++ w ++ ws.flatten := by
      rw [List.flatten_cons, List.append_assoc]
    rw [hsplit] at hlt ⊢
    have hrest := ih hlt
    rw [List.length_append, List.length_append] at hlt
    rw [List.map_cons, Format.cut, toNat_ofNat_of_lt (by omega), ← List.length_append, hrest,
      List.take_left, List.drop_left]

theorem cut_flatten {ws : List (List Char)} (hlt : ws.flatten.length < wordLimit) :
    Format.cut ws.flatten 0 (ws.map fun w => UInt64.ofNat w.length) = ws :=
  @cut_append_flatten [] ws hlt

theorem fills_flatten {f : Format} {ws : List (List Char)}
    (hparts : f.parts = ws.map fun w => UInt64.ofNat w.length)
    (hlt : ws.flatten.length < wordLimit) : f.Fills ws.flatten := by
  refine ⟨?_, hlt⟩
  have hle : ∀ w ∈ ws, w.length ≤ ws.flatten.length := fun w hw =>
    (List.sublist_flatten_of_mem hw).length_le
  have hnat : f.parts.map UInt64.toNat = ws.map List.length := by
    rw [hparts, List.map_map]
    exact List.map_congr_left fun w hw => toNat_ofNat_of_lt (Nat.lt_of_le_of_lt (hle w hw) hlt)
  rw [hnat, List.length_flatten]

-- An answer that is put together from the written lengths of another one and as many letters has
-- the same written lengths.
theorem lengthsOnly_apply (h : Line.isAnswer answer = true) (hwords : ∀ w ∈ wordsOf answer, w ≠ [])
    (htidy : Tidy (lengthsOnly answer)) {f : Format} {rename : Char → Char}
    (hparts : f.parts = (wordsOf answer).map fun w => UInt64.ofNat w.length)
    (hgaps : f.gaps = (split (lengthsOnly answer)).gaps)
    (hlt : (lettersOf answer).length < wordLimit)
    (hplain : Plain ((lettersOf answer).map rename)) :
    isLettered (f.apply ((lettersOf answer).map rename)) = true ∧
      wordsOf (f.apply ((lettersOf answer).map rename)) = (wordsOf answer).map (·.map rename) ∧
      lengthsOnly (f.apply ((lettersOf answer).map rename)) = lengthsOnly answer := by
  have hflat : (lettersOf answer).map rename = ((wordsOf answer).map (·.map rename)).flatten := by
    rw [lettersOf, List.map_flatten]
  have hparts' : f.parts = ((wordsOf answer).map (·.map rename)).map fun w => UInt64.ofNat w.length := by
    rw [hparts, List.map_map]
    exact List.map_congr_left fun w _ => by rw [Function.comp_apply, List.length_map]
  have hlt' : ((wordsOf answer).map (·.map rename)).flatten.length < wordLimit := by
    rw [← hflat, List.length_map]
    exact hlt
  have hfills : f.Fills ((lettersOf answer).map rename) := by
    rw [hflat]
    exact fills_flatten hparts' hlt'
  have hne : (lettersOf answer).map rename ≠ [] := by simpa using lettersOf_ne_nil hwords
  have hpieces : Format.cut ((lettersOf answer).map rename) 0 f.parts =
      (wordsOf answer).map (·.map rename) := by
    rw [hflat, hparts']
    exact cut_flatten hlt'
  have hl := Format.isLettered_apply hplain hfills hne
  refine ⟨hl, by rw [Format.wordsOf_apply hplain hfills hne, hpieces], ?_⟩
  have hsplit := Format.split_apply hplain hfills hne
  rw [lengthsOnly, if_pos hl, hsplit, Phrase.text, Phrase.map, Format.pieces]
  dsimp only
  rw [hpieces, hgaps]
  have hwritten : ((wordsOf answer).map (·.map rename)).map writeLength =
      (split (lengthsOnly answer)).parts := by
    rw [parts_lengthsOnly h hwords htidy, List.map_map]
    apply List.map_congr_left
    intro w hw
    rw [Function.comp_apply, writeLength_eq (by simpa using hwords w hw), List.length_map]
  rw [hwritten]
  exact text_split (lengthsOnly answer)

end Cruciverb.Answer
