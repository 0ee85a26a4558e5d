import Cruciverb.Proofs.Answer.Lengths

namespace Cruciverb.Answer.Format

open Cruciverb.Text

variable {f : Format}

theorem split_display (h : f.parts ≠ []) :
    split f.text = Phrase.map (fun n => Nat.toDigits 10 n.toNat) f := by
  have htext : f.text = (Phrase.map (fun n => Nat.toDigits 10 n.toNat) f).text := by
    simp only [text, toList_toString]
  rw [htext]
  apply split_text
  · simpa [Phrase.map] using h
  · intro part hpart c hc
    obtain ⟨n, -, rfl⟩ := List.mem_map.mp hpart
    exact isSeparator_of_isDigit (isDigit_of_mem_toDigits hc)

theorem wordsOf_display (h : f.parts ≠ []) :
    wordsOf f.text = f.parts.map fun n => List.replicate n.toNat star := by
  rw [wordsOf, split_display h, Phrase.map, List.map_map]
  apply List.map_congr_left
  intro n _
  rw [Function.comp_apply, spell, if_pos (isNumeral_toDigits _), Nat.ofDigitChars_ten_toDigits]

theorem lettersOf_display (h : f.parts ≠ []) :
    lettersOf f.text = List.replicate (f.parts.map UInt64.toNat).sum star := by
  rw [lettersOf, wordsOf_display h, List.eq_replicate_iff]
  constructor
  · simp [List.length_flatten, List.map_map, Function.comp_def]
  · intro c hc
    obtain ⟨word, hword, hc⟩ := List.mem_flatten.mp hc
    obtain ⟨n, -, rfl⟩ := List.mem_map.mp hword
    exact List.eq_of_mem_replicate hc

theorem isAnswer_display (h : f.parts ≠ []) : Line.isAnswer f.text = true := by
  have hne : f.text ≠ [] := by
    intro hnil
    have hparts := congrArg Phrase.parts (split_display h)
    obtain ⟨n, hn⟩ := List.exists_mem_of_ne_nil _ h
    have hmem : Nat.toDigits 10 n.toNat ∈ (split f.text).parts := by
      rw [hparts]
      exact List.mem_map_of_mem hn
    rw [hnil] at hmem
    exact Nat.toDigits_ne_nil (List.mem_singleton.mp hmem)
  have hall : f.text.all (fun c => c.isDigit || isSeparator c) = true := by
    rw [List.all_eq_true]
    intro c hc
    rcases mem_weave hc with ⟨part, hpart, hc⟩ | hsep
    · obtain ⟨n, -, rfl⟩ := List.mem_map.mp hpart
      rw [toList_toString] at hc
      rw [isDigit_of_mem_toDigits hc, Bool.true_or]
    · rw [hsep, Bool.or_true]
  rw [Line.isAnswer, hall]
  simp [hne]

theorem trim_text : trim f.text = f.text := by
  apply trim_eq_self
  intro c hc
  rcases mem_weave hc with ⟨part, hpart, hc⟩ | hsep
  · obtain ⟨n, -, rfl⟩ := List.mem_map.mp hpart
    rw [toList_toString] at hc
    exact isBlank_of_isDigit (isDigit_of_mem_toDigits hc)
  · exact isBlank_of_isSeparator hsep

theorem read_text (h : f.parts ≠ []) : read f.text = .ok f := by
  have hsplit : split (trim f.text) = Phrase.map (fun n => Nat.toDigits 10 n.toNat) f := by
    rw [trim_text, split_display h]
  have hlengths : readLengths (split (trim f.text)).parts = .ok f.parts := by
    have hread := @readLengths_toDigits (f.parts.map UInt64.toNat)
      (List.forall_mem_map.mpr fun n _ => n.toNat_lt)
    rw [List.map_map, List.map_map] at hread
    rw [hsplit]
    exact hread.trans (congrArg Except.ok (by simp [Function.comp_def]))
  obtain ⟨g, hg, hparts, hgaps⟩ := read_of_readLengths hlengths
  rw [hsplit] at hgaps
  obtain ⟨parts, gaps, _⟩ := f
  obtain ⟨parts', gaps', _⟩ := g
  obtain rfl : parts' = parts := hparts
  obtain rfl : gaps' = gaps := hgaps
  exact hg

-- A format that is read has at least one length.
theorem parts_ne_nil_of_read {cs : List Char} (h : read cs = .ok f) : f.parts ≠ [] := by
  unfold read at h
  dsimp only at h
  split at h
  · cases h
  · next ns hns =>
    cases h
    intro hnil
    have hlength := length_readLengths hns
    rw [show ns = [] from hnil] at hlength
    exact split_parts_ne_nil _ (List.length_eq_zero_iff.mp hlength.symm)

end Cruciverb.Answer.Format
