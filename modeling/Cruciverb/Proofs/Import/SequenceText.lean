import Cruciverb.Proofs.Answer.Lengths
import Cruciverb.Proofs.Import.Distribution

namespace Cruciverb.Import

open Cruciverb.Answer Cruciverb.Text

theorem weave_append {ps qs : List (List Char)} {gaps more : List Separator} (gap : Separator)
    (hps : ps ≠ []) (hgaps : gaps.length = ps.length - 1) (hqs : qs ≠ []) :
    weave (ps ++ qs) (gaps ++ gap :: more) = weave ps gaps ++ gap.char :: weave qs more := by
  induction ps generalizing gaps with
  | nil => exact absurd rfl hps
  | cons p ps ih =>
    cases ps with
    | nil =>
      obtain rfl : gaps = [] := List.eq_nil_of_length_eq_zero hgaps
      obtain ⟨q, qs, rfl⟩ := List.exists_cons_of_ne_nil hqs
      rw [List.singleton_append, List.nil_append, weave_cons_cons]
      simp [weave]
    | cons p' ps =>
      cases gaps with
      | nil => cases hgaps
      | cons first gaps =>
        have hrest := @ih gaps (List.cons_ne_nil _ _) (Nat.succ.inj hgaps)
        rw [List.cons_append] at hrest
        rw [List.cons_append, List.cons_append, List.cons_append, weave_cons_cons, weave_cons_cons, hrest,
          List.append_assoc, List.cons_append]

section Cut

variable {letters more : List Char} {ms ns : List UInt64}

-- What stands behind the pieces makes no difference to them.
theorem cut_append_left {pos : Nat} (h : pos + amount ns ≤ letters.length) :
    Format.cut (letters ++ more) pos ns = Format.cut letters pos ns := by
  induction ns generalizing pos with
  | nil => rfl
  | cons n ns ih =>
    rw [amount_cons] at h
    rw [Format.cut, Format.cut, ih (by omega), List.take_append_of_le_length (by omega)]

theorem cut_append_right (pos : Nat) :
    Format.cut (letters ++ more) (letters.length + pos) ns = Format.cut more pos ns := by
  induction ns generalizing pos with
  | nil => rfl
  | cons n ns ih =>
    rw [Format.cut, Format.cut, Nat.add_assoc, ih, List.take_length_add_append,
      List.drop_length_add_append]

theorem cut_append_lengths (cs : List Char) (pos : Nat) :
    Format.cut cs pos (ms ++ ns) = Format.cut cs pos ms ++ Format.cut cs (pos + amount ms) ns := by
  induction ms generalizing pos with
  | nil => rfl
  | cons m ms ih =>
    rw [List.cons_append, Format.cut, Format.cut, ih, amount_cons, Nat.add_assoc, List.cons_append]

-- The words of two texts, one behind the other, are those of both.
theorem cut_append (hms : amount ms = letters.length) :
    Format.cut (letters ++ more) 0 (ms ++ ns) =
      Format.cut letters 0 ms ++ Format.cut more 0 ns := by
  have hsecond : Format.cut (letters ++ more) (0 + amount ms) ns = Format.cut more 0 ns := by
    rw [Nat.zero_add, hms]
    exact cut_append_right 0
  rw [cut_append_lengths, hsecond, cut_append_left (by omega)]

end Cut

theorem format_segments (f : Format) : Segment.format (segments f) = f := by
  have hparts := map_snd_segments f
  have hgaps := map_fst_tail_segments f
  obtain ⟨parts, gaps, hlength⟩ := f
  simp only [Segment.format, hparts, hgaps]

-- The separator before a block. A block of no lengths has none.
def lead (block : List Segment) : Separator := (block.head?.map (·.1)).getD .comma

theorem apply_append {a b : List Segment} {letters : List Char} (more : List Char) (ha : a ≠ [])
    (hb : b ≠ []) (hletters : amount (a.map (·.2)) = letters.length) :
    (Segment.format (a ++ b)).apply (letters ++ more) =
      (Segment.format a).apply letters ++ (lead b).char :: (Segment.format b).apply more := by
  obtain ⟨⟨gap, n⟩, b, rfl⟩ := List.exists_cons_of_ne_nil hb
  obtain ⟨seg, a, rfl⟩ := List.exists_cons_of_ne_nil ha
  have hparts : (Segment.format (seg :: a ++ (gap, n) :: b)).parts =
      (seg :: a).map (·.2) ++ ((gap, n) :: b).map (·.2) := List.map_append
  have hgaps : (Segment.format (seg :: a ++ (gap, n) :: b)).gaps = a.map (·.1) ++ gap :: b.map (·.1) :=
    List.map_append
  rw [Format.apply, hparts, hgaps, cut_append hletters]
  refine weave_append gap ?_ ?_ ?_
  · exact List.ne_nil_of_length_pos (by simp)
  · simp
  · exact List.ne_nil_of_length_pos (by simp)

theorem amount_flatten (blocks : List (List Segment)) :
    amount (blocks.flatten.map (·.2)) = (blocks.map fun block => amount (block.map (·.2))).sum := by
  induction blocks with
  | nil => rfl
  | cons block blocks ih =>
    rw [List.flatten_cons, List.map_append, amount_append, ih, List.map_cons, List.sum_cons]

-- The separator before a later block stands in the whole format behind the lengths of all blocks in front
-- of it.
theorem getElem?_gaps_offset {f : Format} {blocks : List (List Segment)}
    (hflat : blocks.flatten = segments f) (hne : ∀ block ∈ blocks, block ≠ []) {i : Nat}
    {block : List Segment} (h : blocks[i + 1]? = some block) :
    f.gaps[offset (blocks.map Segment.format) (i + 1) - 1]? = some (lead block) := by
  have hpart := getElem?_flatten_eq h
  rw [hflat] at hpart
  have hblock := hne block (List.mem_of_getElem? h)
  have hpos : 0 < offset (blocks.map Segment.format) (i + 1) := by
    cases blocks with
    | nil => cases h
    | cons first blocks =>
      have hfirst := List.length_pos_iff.mpr (hne first List.mem_cons_self)
      simp only [offset, List.map_cons, List.take_succ_cons, List.sum_cons, Segment.format,
        List.length_map]
      omega
  obtain ⟨⟨gap, n⟩, tail, rfl⟩ := List.exists_cons_of_ne_nil hblock
  have hhere : (segments f)[offset (blocks.map Segment.format) (i + 1)]? = some (gap, n) := by
    rw [← List.head?_drop]
    cases hdrop : (segments f).drop (offset (blocks.map Segment.format) (i + 1)) with
    | nil =>
      rw [hdrop] at hpart
      cases hpart
    | cons seg rest =>
      rw [hdrop, List.length_cons, List.take_succ_cons] at hpart
      rw [List.head?_cons, (List.cons.inj hpart).1]
  rw [← Nat.sub_add_cancel hpos] at hhere
  exact getElem?_gaps hhere

-- The blocks are cut one after the other, each by its own lengths.
theorem apply_flatten {first : List Segment} {blocks : List (List Segment)} {text : List Char}
    {texts : List (List Char)} (hne : ∀ block ∈ first :: blocks, block ≠ [])
    (hlengths : (first :: blocks).map (fun block => amount (block.map (·.2))) =
      (text :: texts).map List.length) :
    (Segment.format (first :: blocks).flatten).apply (text :: texts).flatten =
      weave (List.zipWith Format.apply ((first :: blocks).map Segment.format) (text :: texts))
        (blocks.map lead) := by
  induction blocks generalizing first text texts with
  | nil =>
    obtain rfl : texts = [] := by
      rw [List.map_cons, List.map_cons, List.cons.injEq] at hlengths
      exact List.map_eq_nil_iff.mp hlengths.2.symm
    simp [weave]
  | cons second blocks ih =>
    cases texts with
    | nil => simp at hlengths
    | cons text' texts =>
      rw [List.map_cons, @List.map_cons _ _ _ text, List.cons.injEq] at hlengths
      rw [List.forall_mem_cons] at hne
      have hrest := @ih second text' texts hne.2 hlengths.2
      have hsecond : second ≠ [] := hne.2 second List.mem_cons_self
      have hlead : lead (second :: blocks).flatten = lead second := by
        obtain ⟨seg, tail, rfl⟩ := List.exists_cons_of_ne_nil hsecond
        rfl
      have happly := apply_append (text' :: texts).flatten hne.1
        (by simp [hsecond] : (second :: blocks).flatten ≠ []) hlengths.1
      rw [hrest, hlead] at happly
      refine happly.trans ?_
      simp only [List.map_cons, List.zipWith_cons_cons, weave_cons_cons]

-- No answer is longer than all of them together.
theorem zipWith_applied? {blocks : List (List Segment)} {texts : List (List Char)}
    (h : blocks.map (fun block => amount (block.map (·.2))) = texts.map List.length)
    (hlt : texts.flatten.length < wordLimit) :
    List.zipWith Format.applied? (blocks.map Segment.format) texts =
      (List.zipWith Format.apply (blocks.map Segment.format) texts).map some := by
  induction blocks generalizing texts with
  | nil => rfl
  | cons block blocks ih =>
    cases texts with
    | nil => cases h
    | cons text texts =>
      rw [List.map_cons, List.map_cons, List.cons.injEq] at h
      rw [List.flatten_cons, List.length_append] at hlt
      have hsize : (Segment.format block).size = text.length := h.1
      rw [List.map_cons, List.zipWith_cons_cons, List.zipWith_cons_cons, List.map_cons, ih h.2 (by omega),
        Format.applied?_eq (by omega)]

-- A phrase is cut into words by cutting each of its answers.
theorem apply_distribute {clue : String} {f : Format} {ms : List Member} {fs : List Format}
    (h : distribute clue f ms = .ok fs) (hpos : ∀ m ∈ ms, 1 ≤ m.length) {texts : List (List Char)}
    (hlengths : texts.map List.length = ms.map (·.length)) (hlt : texts.flatten.length < wordLimit) :
    ∃ (gaps : List Separator) (answers : List (List Char)), gaps.length = ms.length - 1 ∧
      (∀ i, i + 1 < ms.length → gaps[i]? = f.gaps[offset fs (i + 1) - 1]?) ∧
      List.zipWith Format.applied? fs texts = answers.map some ∧
      f.applied? texts.flatten = some (weave answers gaps) := by
  obtain ⟨blocks, hflat, rfl, hamounts⟩ := fillAll_ok h
  have hne : ∀ block ∈ blocks, block ≠ [] := by
    rintro _ hblock rfl
    have hzero : amount (([] : List Segment).map (·.2)) ∈ ms.map (·.length) := by
      rw [← hamounts]
      exact List.mem_map_of_mem hblock
    obtain ⟨m, hm, hlength⟩ := List.mem_map.mp hzero
    have hlength : m.length = 0 := hlength
    have := hpos m hm
    omega
  have hcount : blocks.length = ms.length := by
    have hlength := congrArg List.length hamounts
    rwa [List.length_map, List.length_map] at hlength
  have hf : f = Segment.format blocks.flatten := by rw [hflat, format_segments]
  rw [← hlengths] at hamounts
  refine ⟨blocks.tail.map lead, List.zipWith Format.apply (blocks.map Segment.format) texts,
    by rw [List.length_map, List.length_tail, hcount], fun i hi => ?_, zipWith_applied? hamounts hlt, ?_⟩
  · have hblock := List.getElem?_eq_getElem (hcount ▸ hi : i + 1 < blocks.length)
    rw [getElem?_gaps_offset hflat hne hblock, List.getElem?_map, List.getElem?_tail, hblock]
    rfl
  · have hsize : f.size = texts.flatten.length := by
      rw [hf, List.length_flatten, ← hamounts]
      exact amount_flatten blocks
    rw [Format.applied?_eq (hsize ▸ hlt), hf]
    cases blocks with
    | nil =>
      obtain rfl : texts = [] := List.map_eq_nil_iff.mp hamounts.symm
      rfl
    | cons first blocks =>
      cases texts with
      | nil => cases hamounts
      | cons text texts => exact congrArg some (apply_flatten hne hamounts)

-- The second answer begins with an empty word.
def brokenFormat : Format := ⟨[4, 0, 4, 3], [.hyphen, .comma, .comma], rfl⟩

theorem apply_distribute_brokenFormat :
    distribute "1,9 across" brokenFormat [⟨1, .across, 4⟩, ⟨9, .down, 7⟩] =
        .ok [⟨[4], [], rfl⟩, ⟨[0, 4, 3], [.comma, .comma], rfl⟩] ∧
      brokenFormat.applied? "SELFMADEMAN".toList =
        some (weave ["SELF".toList, ",MADE,MAN".toList] [.hyphen]) := by
  have h : distribute "1,9 across" brokenFormat [⟨1, .across, 4⟩, ⟨9, .down, 7⟩] =
      .ok [⟨[4], [], rfl⟩, ⟨[0, 4, 3], [.comma, .comma], rfl⟩] := rfl
  obtain ⟨gaps, answers, hlength, hgaps, hanswers, happly⟩ :=
    @apply_distribute _ _ _ _ h (by decide) ["SELF".toList, "MADEMAN".toList] (by decide) (by decide)
  obtain ⟨gap, rfl⟩ := List.length_eq_one_iff.mp hlength
  obtain rfl : gap = .hyphen := Option.some.inj (hgaps 0 (by decide))
  have hmade : answers.map some = ["SELF".toList, ",MADE,MAN".toList].map some :=
    hanswers.symm.trans (by decide)
  obtain rfl := (Option.some_injective _).list_map hmade
  exact ⟨h, happly⟩

end Cruciverb.Import
