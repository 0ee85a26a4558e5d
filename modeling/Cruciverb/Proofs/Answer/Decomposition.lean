import Cruciverb.Proofs.Answer.Display
import Cruciverb.Proofs.Pairing

namespace Cruciverb.Answer

open Cruciverb.Text

-- Parts without a separator, one gap between any two neighbours, that make the text when they are joined.
structure Decomposes (cs : List Char) (parts : List (List Char)) (gaps : List Separator) : Prop where
  length : gaps.length + 1 = parts.length
  free : ∀ part ∈ parts, ',' ∉ part ∧ '-' ∉ part
  joined : weave parts gaps = cs

theorem isSeparator_eq_false_iff {c : Char} : isSeparator c = false ↔ c ≠ ',' ∧ c ≠ '-' := by
  constructor
  · intro h
    constructor <;> rintro rfl <;> exact absurd h (by decide)
  · rintro ⟨hcomma, hhyphen⟩
    rw [← Bool.not_eq_true]
    exact fun h => (eq_of_isSeparator h).elim hcomma hhyphen

theorem free_iff {part : List Char} :
    (∀ c ∈ part, isSeparator c = false) ↔ ',' ∉ part ∧ '-' ∉ part := by
  simp only [isSeparator_eq_false_iff]
  constructor
  · exact fun h => ⟨fun hc => (h _ hc).1 rfl, fun hc => (h _ hc).2 rfl⟩
  · rintro ⟨hcomma, hhyphen⟩ c hc
    exact ⟨ne_of_mem_of_not_mem hc hcomma, ne_of_mem_of_not_mem hc hhyphen⟩

theorem length_gaps_split (cs : List Char) :
    (split cs).gaps.length + 1 = (split cs).parts.length := length_splitOnP_isSeparator cs

theorem decomposes_split (cs : List Char) : Decomposes cs (split cs).parts (split cs).gaps where
  length := length_gaps_split cs
  free _ hpart := free_iff.mp fun c hc => (mem_of_mem_splitOnP hpart c hc).2
  joined := text_split cs

-- The parts are the maximal runs without a separator, so that they are found again in what they make.
theorem Decomposes.unique {cs : List Char} {parts : List (List Char)} {gaps : List Separator}
    (h : Decomposes cs parts gaps) : parts = (split cs).parts ∧ gaps = (split cs).gaps := by
  have hgaps : gaps.length = parts.length - 1 := by
    have := h.length
    omega
  have hne : parts ≠ [] := List.ne_nil_of_length_pos (by have := h.length; omega)
  have hsplit : split (weave parts gaps) = ⟨parts, gaps, hgaps⟩ :=
    @split_text ⟨parts, gaps, hgaps⟩ hne fun part hpart => free_iff.mpr (h.free part hpart)
  rw [h.joined] at hsplit
  rw [hsplit]
  exact ⟨rfl, rfl⟩

-- Digits alone, and no more than a machine word holds.
structure IsLength (piece : List Char) : Prop where
  ne_nil : piece ≠ []
  digits : ∀ c ∈ piece, c.isDigit = true
  small : Nat.ofDigitChars 10 piece 0 < 2 ^ 64

theorem readLength_ok_iff {piece : List Char} {n : UInt64} : readLength piece = .ok n ↔
    isNumeral piece = true ∧ Nat.ofDigitChars 10 piece 0 = n.toNat := by
  have hn : n.toNat < wordLimit := n.toNat_lt
  rw [readLength]
  by_cases hnumeral : isNumeral piece = true
  · rw [if_pos hnumeral, readNumeral?, if_pos hnumeral]
    by_cases hlt : Nat.ofDigitChars 10 piece 0 < wordLimit
    · have hword : (UInt64.ofNat (Nat.ofDigitChars 10 piece 0)).toNat = Nat.ofDigitChars 10 piece 0 :=
        toNat_ofNat_of_lt hlt
      simp only [hlt, if_true, Except.ok.injEq, hnumeral, true_and]
      rw [← UInt64.toNat_inj, hword]
    · simp only [hlt, if_false, reduceCtorEq, false_iff]
      rintro ⟨-, heq⟩
      omega
  · simp [hnumeral]

theorem exists_readLength_iff {piece : List Char} :
    (∃ n, readLength piece = .ok n) ↔ IsLength piece := by
  simp only [readLength_ok_iff]
  constructor
  · rintro ⟨n, hnumeral, heq⟩
    obtain ⟨hne, hdigits⟩ := isNumeral_iff.mp hnumeral
    exact ⟨hne, hdigits, heq ▸ n.toNat_lt⟩
  · intro h
    exact ⟨UInt64.ofNat (Nat.ofDigitChars 10 piece 0), isNumeral_iff.mpr ⟨h.ne_nil, h.digits⟩,
      (toNat_ofNat_of_lt h.small).symm⟩

theorem readLengths_cons_ok_iff {piece : List Char} {pieces : List (List Char)} {ns : List UInt64} :
    readLengths (piece :: pieces) = .ok ns ↔
      ∃ n ms, readLength (trim piece) = .ok n ∧ readLengths pieces = .ok ms ∧ ns = n :: ms := by
  rw [readLengths]
  cases readLength (trim piece) with
  | error e => simp
  | ok n =>
    cases readLengths pieces with
    | error e => simp
    | ok ms => simp [eq_comm]

theorem readLengths_ok_iff {pieces : List (List Char)} {ns : List UInt64} : readLengths pieces = .ok ns ↔
    List.Forall₂ (fun piece n => readLength (trim piece) = .ok n) pieces ns := by
  induction pieces generalizing ns with
  | nil => simp [readLengths, eq_comm]
  | cons piece pieces ih => simp only [readLengths_cons_ok_iff, List.forall₂_cons_left_iff, ih]

namespace Format

theorem exists_read_iff {cs : List Char} :
    (∃ f, read cs = .ok f) ↔ ∀ piece ∈ (split (trim cs)).parts, IsLength (trim piece) := by
  constructor
  · rintro ⟨f, hf⟩
    unfold read at hf
    dsimp only at hf
    split at hf
    · cases hf
    · next ns hns =>
      intro piece hpiece
      obtain ⟨n, -, hn⟩ := exists_of_mem_left (readLengths_ok_iff.mp hns) hpiece
      exact exists_readLength_iff.mp ⟨n, hn⟩
  · intro h
    obtain ⟨ns, hns⟩ := exists_forall₂ fun piece hpiece => exists_readLength_iff.mpr (h piece hpiece)
    obtain ⟨f, hf, -⟩ := read_of_readLengths (readLengths_ok_iff.mpr hns)
    exact ⟨f, hf⟩

end Format

-- Neither taking a text apart nor writing and reading a format loses anything.
theorem split_read_lossless :
    (∀ s : String, Decomposes s.toList (split s.toList).parts (split s.toList).gaps ∧
      ∀ parts gaps, Decomposes s.toList parts gaps →
        parts = (split s.toList).parts ∧ gaps = (split s.toList).gaps) ∧
    (∀ f : Format, f.parts ≠ [] → Format.ofString (String.ofList f.text) = .ok f) ∧
    (∀ (s : String) (f : Format), Format.ofString s = .ok f →
      Format.ofString (String.ofList f.text) = .ok f) ∧
    ∀ s : String, (∃ f, Format.ofString s = .ok f) ↔
      ∀ piece ∈ (split (trim s.toList)).parts, IsLength (trim piece) := by
  have hwritten (f : Format) (hf : f.parts ≠ []) : Format.ofString (String.ofList f.text) = .ok f := by
    rw [Format.ofString, String.toList_ofList]
    exact Format.read_text hf
  exact ⟨fun s => ⟨decomposes_split s.toList, fun parts gaps h => h.unique⟩, hwritten,
    fun s f h => hwritten f (Format.parts_ne_nil_of_read h), fun s => Format.exists_read_iff⟩

-- Zeros in front of a length and blanks around it are gone when the format is written, and an empty piece
-- is no length.
theorem split_read_lossless_padded :
    let f : Format := ⟨[7, 18446744073709551615], [.hyphen], rfl⟩
    let parts := ["CAT".toList, [], "DOG".toList, "S".toList]
    (Format.ofString " 007 -\t18446744073709551615 " = .ok f ∧ f.text = "7-18446744073709551615".toList ∧
      Format.ofString (String.ofList f.text) = .ok f) ∧
    Format.ofString (String.ofList (Format.ofLengths [0, 12]).text) = .ok (.ofLengths [0, 12]) ∧
    (¬ ∃ g, Format.ofString "4,,5" = .ok g) ∧
    Decomposes "CAT,,DOG-S".toList parts [.comma, .comma, .hyphen] ∧
      (split "CAT,,DOG-S".toList).parts = parts := by
  intro f parts
  obtain ⟨hsplit, hwritten, hagain, hread⟩ := split_read_lossless
  have hf : Format.ofString " 007 -\t18446744073709551615 " = .ok f := by decide +kernel
  have hparts : Decomposes "CAT,,DOG-S".toList parts [.comma, .comma, .hyphen] :=
    ⟨by decide, by decide, by decide⟩
  refine ⟨⟨hf, by decide +kernel, hagain _ f hf⟩, hwritten _ (by decide), ?_, hparts,
    ((hsplit "CAT,,DOG-S").2 _ _ hparts).1.symm⟩
  rw [hread]
  intro h
  exact (h [] (by decide)).ne_nil rfl

end Cruciverb.Answer
