import Cruciverb.Proofs.SourceFormat

namespace Cruciverb

open Cruciverb.Import Cruciverb.Text

namespace Text

theorem dropWord?_eq_some_iff {key : Char → Char} {word cs rest : List Char} :
    dropWord? key word cs = some rest ↔ ∃ front, cs = front ++ rest ∧ front.map key = word := by
  induction word generalizing cs with
  | nil =>
    rw [dropWord?, Option.some.injEq]
    constructor
    · rintro rfl
      exact ⟨[], rfl, rfl⟩
    · rintro ⟨front, rfl, hfront⟩
      rw [List.map_eq_nil_iff.mp hfront, List.nil_append]
  | cons w word ih =>
    cases cs with
    | nil => simp [dropWord?]
    | cons c cs =>
      rw [dropWord?]
      constructor
      · intro h
        split at h
        · next hkey =>
          obtain ⟨front, rfl, hfront⟩ := ih.mp h
          exact ⟨c :: front, rfl, by rw [List.map_cons, hkey, hfront]⟩
        · cases h
      · rintro ⟨front, hcs, hfront⟩
        obtain ⟨b, front', rfl, hkey, hrest⟩ := List.map_eq_cons_iff.mp hfront
        obtain ⟨rfl, rfl⟩ := List.cons.inj hcs
        rw [if_pos hkey, ih]
        exact ⟨front', rfl, hrest⟩

theorem isWordCharacter_of_isBlank {c : Char} (h : isBlank c = true) : isWordCharacter c = false := by
  have hnone : ∀ n ∈ [9, 10, 11, 12, 13, 0x20, 0x85, 0xA0, 0x1680, 0x2000, 0x2001, 0x2002, 0x2003,
      0x2004, 0x2005, 0x2006, 0x2007, 0x2008, 0x2009, 0x200A, 0x2028, 0x2029, 0x202F, 0x205F, 0x3000],
      isWordCharacter (Char.ofNat n) = false := by
    decide +kernel
  rw [← Char.ofNat_toNat c]
  refine hnone c.toNat ?_
  simp only [isBlank, Bool.or_eq_true, Bool.and_eq_true, decide_eq_true_eq, beq_iff_eq] at h
  simp only [List.mem_cons]
  omega

end Text

namespace Import

-- The two words, and what may stand between them.
def Marker (word : List Char) : Prop :=
  ∃ quick gap slow, word = quick ++ (gap ++ slow) ∧ quick.map fold = "quick".toList ∧
    (∀ c ∈ gap, isMarkerGap c = true) ∧ slow.map fold = "slow".toList

-- A letter is not blank, and it is not in a gap.
theorem isMarkerGap_of_fold {c : Char} (h : fold c ∈ "quickslow".toList) : isMarkerGap c = false := by
  rw [← Bool.not_eq_true]
  intro hgap
  simp only [isMarkerGap, Bool.or_eq_true, beq_iff_eq] at hgap
  rcases hgap with (hblank | rfl) | rfl
  · have hletters : ∀ c ∈ "quickslow".toList, isBlank c = false := by decide
    rw [not_blank_of_not_blank_fold (hletters _ h)] at hblank
    cases hblank
  · exact absurd h (by decide)
  · exact absurd h (by decide)

theorem startsWithMarker_iff {cs : List Char} : startsWithMarker cs = true ↔
    ∃ word rest, cs = word ++ rest ∧ Marker word ∧ endsWord rest = true := by
  rw [startsWithMarker]
  constructor
  · intro h
    split at h
    · cases h
    · next behind hdrop =>
      split at h
      · cases h
      · next rest hdrop' =>
        obtain ⟨quick, rfl, hquick⟩ := dropWord?_eq_some_iff.mp hdrop
        obtain ⟨slow, hbehind, hslow⟩ := dropWord?_eq_some_iff.mp hdrop'
        refine ⟨quick ++ (behind.takeWhile isMarkerGap ++ slow), rest, ?_, ⟨quick, _, slow, rfl, hquick,
          fun c hc => List.mem_takeWhile_imp hc, hslow⟩, h⟩
        rw [List.append_assoc, List.append_assoc, ← hbehind, List.takeWhile_append_dropWhile]
  · rintro ⟨_, rest, rfl, ⟨quick, gap, slow, rfl, hquick, hgap, hslow⟩, hrest⟩
    have hfirst : dropWord? fold "quick".toList (quick ++ (gap ++ slow) ++ rest) =
        some (gap ++ (slow ++ rest)) :=
      dropWord?_eq_some_iff.mpr ⟨quick, by simp only [List.append_assoc], hquick⟩
    have hgap : (gap ++ (slow ++ rest)).dropWhile isMarkerGap = slow ++ rest := by
      obtain ⟨s, tail, rfl, hs, -⟩ := List.map_eq_cons_iff.mp hslow
      rw [List.dropWhile_append_of_pos hgap, List.cons_append, List.dropWhile_cons_of_neg]
      rw [isMarkerGap_of_fold (by rw [hs]; decide)]
      exact Bool.false_ne_true
    have hsecond : dropWord? fold "slow".toList (slow ++ rest) = some rest :=
      dropWord?_eq_some_iff.mpr ⟨slow, rfl, hslow⟩
    simp only [hfirst, hgap, hsecond, hrest]

namespace Marker

variable {word : List Char}

theorem mem_iff (h : Marker word) : ∀ c ∈ word, fold c ∈ "quickslow".toList ∨ isMarkerGap c = true := by
  obtain ⟨quick, gap, slow, rfl, hquick, hgap, hslow⟩ := h
  intro c hc
  rcases List.mem_append.mp hc with hc | hc
  · left
    have hmem : fold c ∈ "quick".toList := hquick ▸ List.mem_map_of_mem hc
    exact List.mem_append_left "slow".toList hmem
  · rcases List.mem_append.mp hc with hc | hc
    · exact .inr (hgap c hc)
    · left
      have hmem : fold c ∈ "slow".toList := hslow ▸ List.mem_map_of_mem hc
      exact List.mem_append_right "quick".toList hmem

theorem exists_eq_cons (h : Marker word) : ∃ c rest, word = c :: rest ∧ fold c = 'q' := by
  obtain ⟨quick, gap, slow, rfl, hquick, -, -⟩ := h
  obtain ⟨c, rest, rfl, hc, -⟩ := List.map_eq_cons_iff.mp hquick
  exact ⟨c, rest ++ (gap ++ slow), rfl, hc⟩

-- It ends in a letter.
theorem not_blank_of_getLast? (h : Marker word) {c : Char} (hc : word.getLast? = some c) :
    isBlank c = false := by
  obtain ⟨quick, gap, slow, rfl, -, -, hslow⟩ := h
  obtain ⟨front, last, rfl, -, hlast⟩ :=
    List.map_eq_append_iff.mp (show slow.map fold = "slo".toList ++ ['w'] from hslow)
  obtain ⟨w, rfl, hw⟩ := List.map_eq_singleton_iff.mp hlast
  rw [← List.append_assoc, ← List.append_assoc, List.getLast?_concat, Option.some.injEq] at hc
  exact hc ▸ not_blank_of_not_blank_fold (by rw [hw]; decide)

theorem not_mem (h : Marker word) : '#' ∉ word := by
  intro hmem
  exact absurd (h.mem_iff '#' hmem) (by decide)

end Marker

theorem endsWord_append {front tail : List Char} (h : endsWord tail = true) :
    endsWord (front ++ tail) = endsWord front := by
  cases front with
  | nil => exact h
  | cons c front => rfl

theorem endsWord_of_blank {cs : List Char} (h : ∀ c, cs.head? = some c → isBlank c = true) :
    endsWord cs = true := by
  cases cs with
  | nil => rfl
  | cons c cs =>
    rw [endsWord, isWordCharacter_of_isBlank (h c rfl)]
    rfl

-- What follows does not matter if the marker ends before it.
theorem startsWithMarker_append {front tail : List Char} (hends : endsWord tail = true)
    (hmarker : ∀ a rest, tail = a ++ rest → Marker (front ++ a) → a = []) :
    startsWithMarker (front ++ tail) = startsWithMarker front := by
  rw [Bool.eq_iff_iff, startsWithMarker_iff, startsWithMarker_iff]
  constructor
  · rintro ⟨word, rest, heq, hword, hrest⟩
    rcases List.append_eq_append_iff.mp heq with ⟨a, rfl, htail⟩ | ⟨b, rfl, rfl⟩
    · obtain rfl := hmarker a rest htail hword
      exact ⟨front ++ [], [], by simp, hword, rfl⟩
    · exact ⟨word, b, rfl, hword, by rwa [endsWord_append hends] at hrest⟩
  · rintro ⟨word, rest, rfl, hword, hrest⟩
    exact ⟨word, rest ++ tail, by rw [List.append_assoc], hword, by rwa [endsWord_append hends]⟩

theorem startsWithMarker_append_blanks (front : List Char) {blanks : List Char}
    (hblanks : ∀ c ∈ blanks, isBlank c = true) :
    startsWithMarker (front ++ blanks) = startsWithMarker front := by
  have hends : endsWord blanks = true :=
    endsWord_of_blank fun c hc => hblanks c (List.mem_of_head? hc)
  refine startsWithMarker_append hends fun a rest hab hword => ?_
  rcases List.eq_nil_or_concat a with rfl | ⟨a, c, rfl⟩
  · rfl
  · have hlast : isBlank c = false := hword.not_blank_of_getLast? (by simp)
    rw [hblanks c (by simp [hab])] at hlast
    cases hlast

theorem startsWithMarker_append_comment (front comment : List Char) :
    startsWithMarker (front ++ '#' :: comment) = startsWithMarker front := by
  have hends : endsWord ('#' :: comment) = true :=
    (by decide +kernel : (!isWordCharacter '#') = true)
  refine startsWithMarker_append hends fun a rest hab hword => ?_
  cases a with
  | nil => rfl
  | cons c a =>
    obtain ⟨rfl, -⟩ := List.cons.inj hab
    exact absurd (by simp) hword.not_mem

-- What is in front of a comment is trimmed in the same way with the comment and without.
theorem exists_comment (line : List Char) : ∃ comment,
    trimStart line = trimStart (dropComment line) ++ comment ∧
      ∀ c, comment.head? = some c → c = '#' := by
  have hhead (c : Char) (hc : (line.dropWhile (· ≠ '#')).head? = some c) : c = '#' := by
    have hstop := List.head?_dropWhile_not (· ≠ '#') line
    rw [hc] at hstop
    simpa using hstop
  refine ⟨line.dropWhile (· ≠ '#'), ?_, hhead⟩
  conv_lhs => rw [← List.takeWhile_append_dropWhile (p := (· ≠ '#')) (l := line)]
  rw [trimStart, List.dropWhile_append]
  split
  · next hempty =>
    rw [trimStart, dropComment, List.isEmpty_iff.mp hempty, List.nil_append]
    refine trimStart_eq_self fun c hc => ?_
    rw [hhead c hc]
    decide
  · rfl

-- A line is a marker line as it stands, before comments and blanks are taken away.
theorem startsWithMarker_cleanLine (line : List Char) :
    startsWithMarker (cleanLine line) = startsWithMarker (trimStart line) := by
  obtain ⟨blanks, hblanks, hall⟩ := exists_blanks_behind_trimEnd (trimStart (dropComment line))
  obtain ⟨comment, hcomment, hhead⟩ := exists_comment line
  have hfront : startsWithMarker (trimStart line) = startsWithMarker (trimStart (dropComment line)) := by
    rw [hcomment]
    cases comment with
    | nil => rw [List.append_nil]
    | cons c comment => rw [hhead c rfl, startsWithMarker_append_comment]
  rw [hfront, hblanks, startsWithMarker_append_blanks _ hall]
  rfl

theorem startsWithMarker_cons_of_blank {c : Char} {cs : List Char} (h : isBlank c = true) :
    startsWithMarker (c :: cs) = false := by
  rw [← Bool.not_eq_true]
  intro hstart
  rw [not_blank_of_fold (SourceFormat.fold_of_startsWithMarker hstart)] at h
  cases h

theorem hasMarker_of_noNewline {cs : List Char} (h : '\n' ∉ cs) :
    hasMarker cs = startsWithMarker (trimStart cs) := by
  rw [hasMarker]
  induction cs with
  | nil => rfl
  | cons c cs ih =>
    rw [List.mem_cons, not_or] at h
    have hc : (c == '\n') = false := by simpa using Ne.symm h.1
    rw [hasMarkerFrom, hc, Bool.true_and, Bool.false_or, Bool.true_and, trimStart]
    cases hblank : isBlank c with
    | true =>
      rw [List.dropWhile_cons_of_pos hblank, startsWithMarker_cons_of_blank hblank, ih h.2,
        Bool.false_or, trimStart]
    | false =>
      rw [List.dropWhile_cons_of_neg (by simp [hblank]), SourceFormat.hasMarkerFrom_eq_false h.2,
        Bool.or_false]

-- Only blanks have been passed since one of the ends, or since the front if it counts as one.
def Fresh (ends : Char → Bool) (fresh : Bool) (front : List Char) : Prop :=
  (fresh = true ∧ ∀ c ∈ front, isBlank c = true) ∨
    ∃ before e blanks, front = before ++ e :: blanks ∧ ends e = true ∧ ∀ c ∈ blanks, isBlank c = true

section Fresh

variable {ends : Char → Bool} {fresh : Bool} {c : Char} {front : List Char}

theorem fresh_nil : Fresh ends fresh [] ↔ fresh = true := by
  simp [Fresh]

theorem fresh_cons : Fresh ends fresh (c :: front) ↔
    Fresh ends (ends c || fresh && isBlank c) front := by
  constructor
  · rintro (⟨rfl, hblank⟩ | ⟨before, e, blanks, heq, he, hblanks⟩)
    · obtain ⟨hc, hfront⟩ := List.forall_mem_cons.mp hblank
      exact .inl ⟨by rw [hc, Bool.and_self, Bool.or_true], hfront⟩
    · cases before with
      | nil =>
        obtain ⟨rfl, rfl⟩ := List.cons.inj heq
        exact .inl ⟨by rw [he, Bool.true_or], hblanks⟩
      | cons b before =>
        obtain ⟨rfl, rfl⟩ := List.cons.inj heq
        exact .inr ⟨before, e, blanks, rfl, he, hblanks⟩
  · rintro (⟨hfresh, hblank⟩ | ⟨before, e, blanks, rfl, he, hblanks⟩)
    · rw [Bool.or_eq_true, Bool.and_eq_true] at hfresh
      rcases hfresh with hc | ⟨rfl, hc⟩
      · exact .inr ⟨[], c, front, rfl, hc, hblank⟩
      · exact .inl ⟨rfl, List.forall_mem_cons.mpr ⟨hc, hblank⟩⟩
    · exact .inr ⟨c :: before, e, blanks, rfl, he, hblanks⟩

theorem Fresh.mono {ends' : Char → Bool} (h : Fresh ends fresh front)
    (hends : ∀ c, ends c = true → ends' c = true) : Fresh ends' fresh front := by
  rcases h with h | ⟨before, e, blanks, hfront, he, hblanks⟩
  · exact .inl h
  · exact .inr ⟨before, e, blanks, hfront, hends e he, hblanks⟩

theorem exists_eq_append_cons_iff {cs : List Char} {p : List Char → List Char → Prop} :
    (∃ front rest, c :: cs = front ++ rest ∧ p front rest) ↔
      p [] (c :: cs) ∨ ∃ front rest, cs = front ++ rest ∧ p (c :: front) rest := by
  constructor
  · rintro ⟨front, rest, heq, h⟩
    cases front with
    | nil =>
      obtain rfl : c :: cs = rest := heq
      exact .inl h
    | cons b front =>
      obtain ⟨rfl, rfl⟩ := List.cons.inj heq
      exact .inr ⟨front, rest, rfl, h⟩
  · rintro (h | ⟨front, rest, rfl, h⟩)
    · exact ⟨[], c :: cs, rfl, h⟩
    · exact ⟨c :: front, rest, rfl, h⟩

end Fresh

-- Where the text is searched through, the flag says what has been passed.
theorem hasMarkerFrom_iff {fresh : Bool} {cs : List Char} : hasMarkerFrom fresh cs = true ↔
    ∃ front rest, cs = front ++ rest ∧ Fresh (· == '\n') fresh front ∧ startsWithMarker rest = true := by
  induction cs generalizing fresh with
  | nil =>
    have hnone : startsWithMarker [] = false := rfl
    simp [hasMarkerFrom, hnone]
  | cons c cs ih =>
    rw [exists_eq_append_cons_iff]
    simp only [fresh_cons, fresh_nil, ← ih]
    rw [hasMarkerFrom, Bool.or_eq_true, Bool.and_eq_true]

theorem lines_eq_cons (cs : List Char) :
    lines cs = (cs.takeWhile fun c => !isLineEnd c) :: (lines cs).tail := by
  induction cs with
  | nil => rfl
  | cons c cs ih =>
    cases hend : isLineEnd c with
    | true =>
      rw [lines_cons_of_isLineEnd hend, List.takeWhile_cons_of_neg (by simp [hend]), List.tail_cons]
    | false =>
      obtain ⟨first, rest, hcs, hlines⟩ := @exists_lines_cons c cs hend
      rw [hcs, List.tail_cons, List.cons.injEq] at ih
      rw [hlines, List.takeWhile_cons_of_pos (by simp [hend]), ih.1, List.tail_cons]

-- The lines are gone through in the same way, with ends of another kind.
theorem exists_line_iff {fresh : Bool} {cs : List Char} :
    (∃ l ∈ if fresh then lines cs else (lines cs).tail, startsWithMarker (trimStart l) = true) ↔
      ∃ front rest, cs = front ++ rest ∧ Fresh isLineEnd fresh front ∧
        startsWithMarker (rest.takeWhile fun c => !isLineEnd c) = true := by
  have hnone : startsWithMarker [] = false := rfl
  induction cs generalizing fresh with
  | nil => cases fresh <;> simp [hnone, lines, trimStart]
  | cons c cs ih =>
    rw [exists_eq_append_cons_iff]
    simp only [fresh_cons, fresh_nil, ← ih]
    cases hend : isLineEnd c with
    | true =>
      rw [List.takeWhile_cons_of_neg (by simp [hend]), hnone, lines_cons_of_isLineEnd hend]
      cases fresh <;> simp [hnone, trimStart]
    | false =>
      obtain ⟨first, rest, hcs, hlines⟩ := @exists_lines_cons c cs hend
      have hfirst : first = cs.takeWhile fun c => !isLineEnd c :=
        (List.cons.inj (hcs.symm.trans (lines_eq_cons cs))).1
      rw [List.takeWhile_cons_of_pos (by simp [hend]), ← hfirst, hlines, hcs, Bool.false_or]
      cases hblank : isBlank c with
      | true =>
        have htrim : trimStart (c :: first) = trimStart first := List.dropWhile_cons_of_pos hblank
        cases fresh <;> simp [htrim, startsWithMarker_cons_of_blank hblank]
      | false =>
        have htrim : trimStart (c :: first) = c :: first :=
          List.dropWhile_cons_of_neg (by simp [hblank])
        cases fresh <;> simp [htrim]

-- On one line the marker holds no end of a line.
theorem startsWithMarker_takeWhile_iff {cs : List Char} :
    startsWithMarker (cs.takeWhile fun c => !isLineEnd c) = true ↔
      ∃ word rest, cs = word ++ rest ∧ Marker word ∧ (∀ c ∈ word, isLineEnd c = false) ∧
        endsWord rest = true := by
  have hends (cs : List Char) : endsWord (cs.dropWhile fun c => !isLineEnd c) = true := by
    refine endsWord_of_blank fun c hc => ?_
    have hstop := List.head?_dropWhile_not (fun c => !isLineEnd c) cs
    rw [hc] at hstop
    exact isBlank_of_isLineEnd (by simpa using hstop)
  rw [startsWithMarker_iff]
  constructor
  · rintro ⟨word, rest, hline, hword, hrest⟩
    have hcs : cs = word ++ (rest ++ cs.dropWhile fun c => !isLineEnd c) := by
      rw [← List.append_assoc, ← hline, List.takeWhile_append_dropWhile]
    refine ⟨word, _, hcs, hword, fun c hc => ?_, by rwa [endsWord_append (hends cs)]⟩
    have hmem : c ∈ cs.takeWhile fun c => !isLineEnd c := hline ▸ List.mem_append_left rest hc
    simpa using List.mem_takeWhile_imp hmem
  · rintro ⟨word, rest, rfl, hword, hline, hrest⟩
    refine ⟨word, rest.takeWhile fun c => !isLineEnd c, ?_, hword, ?_⟩
    · exact List.takeWhile_append_of_pos (by simpa using hline)
    · rwa [← endsWord_append (hends rest), List.takeWhile_append_dropWhile]

theorem hasMarker_iff {cs : List Char} : hasMarker cs = true ↔ ∃ front word rest,
    cs = front ++ (word ++ rest) ∧ Fresh (· == '\n') true front ∧ Marker word ∧
      endsWord rest = true := by
  rw [hasMarker, hasMarkerFrom_iff]
  constructor
  · rintro ⟨front, _, rfl, hfresh, hstart⟩
    obtain ⟨word, rest, rfl, hword, hrest⟩ := startsWithMarker_iff.mp hstart
    exact ⟨front, word, rest, rfl, hfresh, hword, hrest⟩
  · rintro ⟨front, word, rest, rfl, hfresh, hword, hrest⟩
    exact ⟨front, word ++ rest, rfl, hfresh, startsWithMarker_iff.mpr ⟨word, rest, rfl, hword, hrest⟩⟩

theorem hasMarker_cleanLine {line : List Char} (h : ∀ c ∈ line, isLineEnd c = false) :
    hasMarker (cleanLine line) = startsWithMarker (trimStart line) := by
  have hclean := clean_cleanLine h
  rw [hasMarker_of_noNewline hclean.noNewline, trimStart_eq_self hclean.head,
    startsWithMarker_cleanLine]

theorem exists_marker_line_iff {cs : List Char} : (∃ l ∈ cleanLines cs, hasMarker l = true) ↔
    ∃ front word rest, cs = front ++ (word ++ rest) ∧ Fresh isLineEnd true front ∧ Marker word ∧
      (∀ c ∈ word, isLineEnd c = false) ∧ endsWord rest = true := by
  have hraw : (∃ l ∈ cleanLines cs, hasMarker l = true) ↔
      ∃ l ∈ lines cs, startsWithMarker (trimStart l) = true := by
    simp only [cleanLines, List.mem_map, exists_exists_and_eq_and]
    refine exists_congr fun l => and_congr_right fun hl => ?_
    rw [hasMarker_cleanLine fun c hc => (mem_of_mem_splitOnP hl c hc).2]
  have hlines := @exists_line_iff true cs
  rw [if_pos rfl] at hlines
  rw [hraw, hlines]
  constructor
  · rintro ⟨front, _, rfl, hfresh, hstart⟩
    obtain ⟨word, rest, rfl, hword⟩ := startsWithMarker_takeWhile_iff.mp hstart
    exact ⟨front, word, rest, rfl, hfresh, hword⟩
  · rintro ⟨front, word, rest, rfl, hfresh, hword⟩
    exact ⟨front, word ++ rest, rfl, hfresh,
      startsWithMarker_takeWhile_iff.mpr ⟨word, rest, rfl, hword⟩⟩

-- Each carriage return has a line feed behind it.
def Paired (cs : List Char) : Prop := ∀ i < cs.length, cs[i]? = some '\r' → cs[i + 1]? = some '\n'

instance (cs : List Char) : Decidable (Paired cs) :=
  inferInstanceAs (Decidable (∀ i < cs.length, _))

theorem Paired.head?_eq {before after : List Char} (h : Paired (before ++ '\r' :: after)) :
    after.head? = some '\n' := by
  have hnext := h before.length (by simp) (by simp)
  rwa [List.getElem?_append_right (by omega), Nat.add_sub_cancel_left, List.getElem?_cons_succ,
    ← List.head?_eq_getElem?] at hnext

-- The line feed is the one that counts.
theorem Fresh.of_paired {front word rest : List Char} (h : Fresh isLineEnd true front)
    (hword : Marker word) (hpaired : Paired (front ++ (word ++ rest))) :
    Fresh (· == '\n') true front := by
  rcases h with h | ⟨before, e, blanks, rfl, he, hblanks⟩
  · exact .inl h
  · rw [isLineEnd, Bool.or_eq_true] at he
    rcases he with hreturn | hfeed
    · obtain rfl := beq_iff_eq.mp hreturn
      rw [List.append_assoc, List.cons_append] at hpaired
      have hnext := hpaired.head?_eq
      cases blanks with
      | nil =>
        -- the marker does not begin with a line feed
        obtain ⟨c, tail, rfl, hc⟩ := hword.exists_eq_cons
        obtain rfl : c = '\n' := Option.some.inj hnext
        exact absurd hc (by decide)
      | cons b blanks =>
        obtain rfl : b = '\n' := Option.some.inj hnext
        exact .inr ⟨before ++ ['\r'], '\n', blanks, by simp, rfl, (List.forall_mem_cons.mp hblanks).2⟩
    · exact .inr ⟨before, e, blanks, rfl, hfeed, hblanks⟩

namespace QuickSlow

-- A line of no kind stops the reading, wherever it is.
theorem readLines_error {ls : List (List Char)} {l : List Char} (hl : l ∈ ls)
    (hmarker : hasMarker l = false) (hread : Line.read l = .unrecognised) (hclue : clue? l = none)
    (grouping : Option Direction) (list : ClueList) : ∃ e, readLines grouping ls list = .error e := by
  induction ls generalizing grouping list with
  | nil => cases hl
  | cons first ls ih =>
    rw [readLines]
    rcases List.mem_cons.mp hl with rfl | hl
    · rw [hmarker, if_neg Bool.false_ne_true, hread]
      simp only [hclue]
      exact ⟨_, rfl⟩
    · split
      · exact ih hl _ _
      · split
        · exact ih hl _ _
        · exact ih hl _ _
        · exact ih hl _ _
        · exact ih hl _ _
        all_goals
          split
          · exact ⟨_, rfl⟩
          · split
            · exact ⟨_, rfl⟩
            · exact ih hl _ _

theorem clue?_eq_none {c : Char} {line : List Char} (h : c.isDigit = false) :
    clue? (c :: line) = none := by
  have hspan : spanDigits (c :: line) = ([], c :: line) := by
    simp [spanDigits, h]
  simp [clue?, hspan, readNumeral?, isNumeral]

end QuickSlow

open QuickSlow

-- Where the marker is on no line, the line on which it begins is of no kind.
theorem fromQuickSlow_error_of_no_line {cs : List Char} (h : hasMarker cs = true)
    (hnone : ∀ l ∈ cleanLines cs, hasMarker l = false) (settings : Settings) :
    ∃ e, fromQuickSlow settings (String.ofList cs) = .error (.refused e) := by
  obtain ⟨raw, hraw, hbegins⟩ := SourceFormat.exists_begins_of_hasMarkerFrom h
  obtain ⟨c, rest, hc, hclean⟩ := exists_cleanLine_eq hbegins (by decide)
  have hline : c :: rest ∈ cleanLines cs := hclean ▸ List.mem_map_of_mem hraw
  have hread : Line.read (c :: rest) = .unrecognised := by
    apply Line.read_eq_unrecognised
    · rw [toLower_of_fold hc]
      decide
    · rw [hc]
      decide
  have hdigit : c.isDigit = false := by
    rw [← Bool.not_eq_true]
    intro hdigit
    obtain ⟨-, hle⟩ := toNat_of_isDigit hdigit
    have hlower := toLower_of_fold hc
    rw [toLower_eq_self (by omega)] at hlower
    rw [hlower] at hdigit
    exact absurd hdigit (by decide)
  obtain ⟨e, he⟩ := readLines_error hline (hnone _ hline) hread (clue?_eq_none hdigit) none .empty
  exact ⟨e, by rw [fromQuickSlow, String.toList_ofList, he]⟩

-- A text has the marker behind a line feed and blanks, and a line of it has the marker behind any end of
-- a line and blanks, but not across one. If no carriage return stands alone, no marker line is missed, and
-- where the marker is on no line the text is refused.
theorem marker_and_marker_lines (cs : List Char) :
    (hasMarker cs = true ↔ ∃ front word rest, cs = front ++ (word ++ rest) ∧
      Fresh (· == '\n') true front ∧ Marker word ∧ endsWord rest = true) ∧
    ((∃ l ∈ cleanLines cs, hasMarker l = true) ↔ ∃ front word rest, cs = front ++ (word ++ rest) ∧
      Fresh isLineEnd true front ∧ Marker word ∧ (∀ c ∈ word, isLineEnd c = false) ∧
      endsWord rest = true) ∧
    (Paired cs → (∃ l ∈ cleanLines cs, hasMarker l = true) → hasMarker cs = true) ∧
    (hasMarker cs = true → (∀ l ∈ cleanLines cs, hasMarker l = false) →
      (∃ front word rest, cs = front ++ (word ++ rest) ∧ Marker word ∧ ∃ c ∈ word, isLineEnd c = true) ∧
        ∀ settings, ∃ e, fromQuickSlow settings (String.ofList cs) = .error (.refused e)) := by
  refine ⟨hasMarker_iff, exists_marker_line_iff, fun hpaired hline => ?_, fun h hnone => ⟨?_, ?_⟩⟩
  · obtain ⟨front, word, rest, rfl, hfresh, hword, -, hrest⟩ := exists_marker_line_iff.mp hline
    exact hasMarker_iff.mpr ⟨front, word, rest, rfl, hfresh.of_paired hword hpaired, hword, hrest⟩
  · obtain ⟨front, word, rest, rfl, hfresh, hword, hrest⟩ := hasMarker_iff.mp h
    refine ⟨front, word, rest, rfl, hword, ?_⟩
    by_contra hends
    have hfeed (c : Char) (hc : (c == '\n') = true) : isLineEnd c = true := by
      rw [isLineEnd, hc, Bool.or_true]
    have hnoEnd (c : Char) (hc : c ∈ word) : isLineEnd c = false :=
      Bool.eq_false_iff.mpr fun hend => hends ⟨c, hc, hend⟩
    obtain ⟨l, hl, hmarker⟩ := exists_marker_line_iff.mpr
      ⟨front, word, rest, rfl, hfresh.mono hfeed, hword, hnoEnd, hrest⟩
    rw [hnone l hl] at hmarker
    cases hmarker
  · exact fromQuickSlow_error_of_no_line h hnone

-- Behind pairs and blanks, and in letters of either case.
def pairedList : List Char := "name: Tiny\r\n Quick_SLOW 3\r\nacross".toList

theorem marker_and_marker_lines_pairedList :
    Paired pairedList ∧ (∃ l ∈ cleanLines pairedList, hasMarker l = true) ∧
      hasMarker pairedList = true := by
  have hpaired : Paired pairedList := by decide +kernel
  have hline : ∃ l ∈ cleanLines pairedList, hasMarker l = true := by decide +kernel
  exact ⟨hpaired, hline, (marker_and_marker_lines pairedList).2.2.1 hpaired hline⟩

-- A line that only a carriage return ends, and two words on two lines.
theorem marker_line_not_found :
    (∃ l ∈ cleanLines "name: Tiny\rquick slow".toList, hasMarker l = true) ∧
      hasMarker "name: Tiny\rquick slow".toList = false ∧
      (∀ l ∈ cleanLines "quick\nslow".toList, hasMarker l = false) ∧
      hasMarker "quick\nslow".toList = true := by
  decide +kernel

end Import

end Cruciverb
