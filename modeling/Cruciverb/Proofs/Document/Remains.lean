import Cruciverb.Proofs.Document.Legible
import Cruciverb.Proofs.Document.Recognition
import Cruciverb.Proofs.Pairing

namespace Cruciverb

open Cruciverb.Text

namespace Text

-- Cleaning begins only behind the first part of a line, up to a sign that ends no comment-free text.
theorem cleanLine_append_cons {front : List Char} {c : Char}
    (hhead : ∀ d, (front ++ [c]).head? = some d → isBlank d = false) (hfront : '#' ∉ front)
    (hne : c ≠ '#') (hc : isBlank c = false) (rest : List Char) :
    cleanLine (front ++ c :: rest) = front ++ c :: trimEnd (dropComment rest) := by
  have hkept : ∀ d ∈ front, decide (d ≠ '#') = true := by
    intro d hd
    simpa using fun heq : d = '#' => hfront (heq ▸ hd)
  have hdrop : dropComment (front ++ c :: rest) = front ++ c :: dropComment rest := by
    rw [dropComment, List.takeWhile_append_of_pos hkept, List.takeWhile_cons_of_pos (by simpa using hne),
      dropComment]
  have hstart : trimStart (front ++ c :: dropComment rest) = front ++ c :: dropComment rest := by
    apply trimStart_eq_self
    intro d hd
    apply hhead
    cases front with
    | nil => exact hd
    | cons b front => exact hd
  rw [cleanLine, hdrop, trim, hstart, trimEnd_append_cons front hc]

-- What a comment sign leaves of a text.
def remains (cs : List Char) : List Char := trimEnd (dropComment cs)

theorem mem_of_mem_remains {cs : List Char} {c : Char} (h : c ∈ remains cs) : c ∈ cs :=
  (List.takeWhile_sublist _).subset (mem_of_mem_trimEnd h)

theorem remains_eq_self_iff {cs : List Char} (h : Trimmed cs) : remains cs = cs ↔ '#' ∉ cs := by
  constructor
  · intro heq hmem
    rw [← heq] at hmem
    have hkept : '#' ∈ dropComment cs := by
      have := (List.dropWhile_sublist isBlank).subset (List.mem_reverse.mp hmem)
      exact List.mem_reverse.mp this
    have := List.mem_takeWhile_imp hkept
    simp at this
  · intro hno
    have htrim := h.trim_eq
    rw [trim, trimStart_eq_self h.head] at htrim
    rw [remains, dropComment_eq_self hno, htrim]

def kept (s : String) : String := String.ofList (remains s.toList)

theorem kept_eq_self_iff {s : String} (h : Trimmed s.toList) : kept s = s ↔ '#' ∉ s.toList := by
  rw [← remains_eq_self_iff h, kept]
  constructor
  · intro heq
    simpa using congrArg String.toList heq
  · intro heq
    rw [heq, String.ofList_toList]

end Text

theorem Field.key_inj {f g : Field} (h : f.key = g.key) : f = g := by
  revert h
  cases f <;> cases g <;> decide

theorem Field.key_ne_size (f : Field) : f.key ≠ "size" := by cases f <;> decide

namespace Line

-- Behind its key a line gives a value to the field of the key, or says nothing.
theorem read_keyed (f : Field) (rest : List Char) :
    read (f.key.toList ++ ':' :: rest) = .unrecognised ∨
      ∃ value, spacedValue? rest = some value ∧
        read (f.key.toList ++ ':' :: rest) = .field f (String.ofList value) := by
  have hempty : (f.key.toList ++ ':' :: rest).isEmpty = false := by cases f <;> rfl
  have hrule : (f.key.toList ++ ':' :: rest == "---".toList) = false := by cases f <;> rfl
  have hfront : isFrontMatter (f.key.toList ++ ':' :: rest) = false := by cases f <;> rfl
  have hsize : size? (f.key.toList ++ ':' :: rest) = none := by cases f <;> rfl
  have hgrouping : grouping? (f.key.toList ++ ':' :: rest) = none := by cases f <;> rfl
  have hclue : clue? (f.key.toList ++ ':' :: rest) = none := by cases f <;> rfl
  by_cases hf : f = .pubdate
  · subst hf
    have hfield : field? (Field.pubdate.key.toList ++ ':' :: rest) = none := rfl
    have hpubdate : pubdate? (Field.pubdate.key.toList ++ ':' :: rest) =
        (spacedValue? rest).bind fun value => if isDateShape value then some value else none := by
      have hdrop : dropWord? Char.toLower "pubdate".toList (Field.pubdate.key.toList ++ ':' :: rest) =
          some (':' :: rest) := rfl
      have hcolon : dropColon (':' :: rest) = rest := rfl
      rw [pubdate?, hdrop]
      simp only [hcolon]
      cases spacedValue? rest <;> rfl
    simp only [read, hempty, hrule, hfront, hfield, hpubdate, hsize, hgrouping, hclue]
    cases spacedValue? rest with
    | none => exact .inl rfl
    | some value => by_cases hdate : isDateShape value = true <;> simp [hdate]
  · have hdrop : dropAnyWord? Char.toLower fieldKeys (f.key.toList ++ ':' :: rest) =
        some (f, ':' :: rest) := by
      cases f with
      | pubdate => exact absurd rfl hf
      | version | name | author | editor | copyright | publisher => rfl
    have hfield : field? (f.key.toList ++ ':' :: rest) = (spacedValue? rest).map (f, ·) := by
      rw [field?, hdrop]
      rfl
    have hpubdate : pubdate? (f.key.toList ++ ':' :: rest) = none := by
      cases f with
      | pubdate => exact absurd rfl hf
      | version | name | author | editor | copyright | publisher => rfl
    simp only [read, hempty, hrule, hfront, hfield, hpubdate, hsize, hgrouping, hclue]
    cases spacedValue? rest with
    | none => exact .inl rfl
    | some value => exact .inr ⟨value, rfl, rfl⟩

theorem read_sized (rest : List Char) :
    read ("size:".toList ++ rest) = .unrecognised ∨
      ∃ dimensions, read ("size:".toList ++ rest) = .size dimensions := by
  have hfront : isFrontMatter ("size:".toList ++ rest) = false := rfl
  have hfield : field? ("size:".toList ++ rest) = none := rfl
  have hpubdate : pubdate? ("size:".toList ++ rest) = none := rfl
  have hgrouping : grouping? ("size:".toList ++ rest) = none := rfl
  have hclue : clue? ("size:".toList ++ rest) = none := rfl
  have hempty : ("size:".toList ++ rest).isEmpty = false := rfl
  have hrule : ("size:".toList ++ rest == "---".toList) = false := rfl
  simp only [read, hempty, hrule, hfront, hfield, hpubdate, hgrouping, hclue]
  cases size? ("size:".toList ++ rest) with
  | none => exact .inl rfl
  | some dimensions => exact .inr ⟨dimensions, rfl⟩

-- The space behind a key belongs to no value.
theorem eq_remains_of_spacedValue? {cs value : List Char}
    (hhead : ∀ c, cs.head? = some c → isBlank c = false)
    (h : spacedValue? (trimEnd (dropComment (' ' :: cs))) = some value) : value = remains cs := by
  have hspace : dropComment (' ' :: cs) = ' ' :: dropComment cs := by
    rw [dropComment, List.takeWhile_cons_of_pos (by decide), dropComment]
  rw [hspace] at h
  cases hcs : dropComment cs with
  | nil =>
    rw [hcs] at h
    cases h
  | cons c rest =>
    have hc : isBlank c = false := by
      apply hhead
      cases cs with
      | nil => cases hcs
      | cons d cs =>
        rw [dropComment, List.takeWhile_cons] at hcs
        split at hcs
        · rw [List.head?_cons, (List.cons.inj hcs).1]
        · cases hcs
    have hline : trimEnd (' ' :: c :: rest) = ' ' :: c :: trimEnd rest :=
      trimEnd_append_cons [' '] hc rest
    rw [remains, hcs, show trimEnd (c :: rest) = c :: trimEnd rest from trimEnd_append_cons [] hc rest]
    rw [hcs, hline] at h
    have hblank : isBlank ' ' = true := by decide
    simp only [spacedValue?, List.takeWhile_cons, List.dropWhile_cons, hblank, hc, Bool.false_eq_true,
      if_false, if_true, List.isEmpty_cons, Bool.false_or] at h
    split at h
    · cases h
    · exact (Option.some.inj h).symm

-- A line that was written for a field sets that field to what is left of the value, or says nothing.
theorem read_fieldLine (f : Field) (value : String) :
    read (cleanLine (Document.fieldLine (f.key, value)).toList) = .unrecognised ∨
      ∃ v, read (cleanLine (Document.fieldLine (f.key, value)).toList) = .field f v ∧
        ((∀ c, value.toList.head? = some c → isBlank c = false) → v = kept value) := by
  have hclean : cleanLine (Document.fieldLine (f.key, value)).toList =
      f.key.toList ++ ':' :: trimEnd (dropComment (' ' :: value.toList)) := by
    rw [Heading.toList_fieldLine_entry]
    refine cleanLine_append_cons ?_ ?_ (by decide) (by decide) _
    · cases f <;> decide
    · cases f <;> decide
  rw [hclean]
  refine (read_keyed f _).imp id ?_
  rintro ⟨v, hv, hread⟩
  exact ⟨_, hread, fun hhead => congrArg String.ofList (eq_remains_of_spacedValue? hhead hv)⟩

theorem read_sizeLine (value : String) :
    read (cleanLine (Document.fieldLine ("size", value)).toList) = .unrecognised ∨
      ∃ dimensions, read (cleanLine (Document.fieldLine ("size", value)).toList) = .size dimensions := by
  have hline : (Document.fieldLine ("size", value)).toList =
      "size".toList ++ ':' :: ' ' :: value.toList := by
    simp [Document.fieldLine]
  rw [hline, cleanLine_append_cons (by decide) (by decide) (by decide) (by decide)]
  exact read_sized _

-- Nothing but blanks is in front of a body and behind it, and there is one behind it.
theorem body?_parts {cs body : List Char} (h : body? cs = some body) :
    (∀ c ∈ cs, isBlank c = true) ∨
      ∃ front back, cs = front ++ body ++ back ∧ (∀ c ∈ front, isBlank c = true) ∧
        (∀ c ∈ back, isBlank c = true) ∧ back ≠ [] := by
  unfold body? at h
  simp only at h
  split at h
  · cases h
  split at h
  · next hempty =>
    rw [List.isEmpty_iff, List.dropWhile_eq_nil_iff] at hempty
    exact .inl hempty
  · next hne =>
    split at h
    · next hrest =>
      cases h
      rw [List.all_eq_true] at hrest
      have hsplit := List.takeWhile_append_dropWhile (p := isBlank) (l := cs)
      rw [List.isEmpty_iff] at hne
      generalize cs.dropWhile isBlank = inner at *
      have hbody : inner.dropLast.takeWhile (· ≠ '\n') <+: inner.dropLast := List.takeWhile_prefix _
      refine .inr ⟨cs.takeWhile isBlank, _, ?_, fun c hc => List.mem_takeWhile_imp hc, hrest, ?_⟩
      · rw [List.append_assoc,
          List.prefix_iff_eq_append.mp (hbody.trans (List.dropLast_prefix inner)), hsplit]
      · have hshort := hbody.length_le
        have hpos := List.length_pos_iff.mpr hne
        rw [List.length_dropLast] at hshort
        rw [← List.length_pos_iff, List.length_drop]
        omega
    · cases h

theorem isBlank_getLast_of_body? {cs body : List Char} (h : body? cs = some body) {c : Char}
    (hc : cs.getLast? = some c) : isBlank c = true := by
  rcases body?_parts h with hblank | ⟨front, back, rfl, -, hback, hne⟩
  · exact hblank c (List.mem_of_getLast? hc)
  · apply hback
    obtain ⟨last, hlast⟩ := Option.isSome_iff_exists.mp (List.getLast?_isSome.mpr hne)
    rw [List.getLast?_append, hlast, Option.some_or] at hc
    cases hc
    exact List.mem_of_getLast? hlast

-- The parentheses that are found at the end are those that were opened at a given place, or stand in what
-- comes behind it.
theorem lastGroup?_append_inv {front tail before inner : List Char}
    (hgroup : lastGroup? (front ++ '(' :: tail) = some (before, inner)) (hinner : '(' ∉ inner) :
    (before = front ∧ '(' ∉ tail) ∨
      ∃ middle, before = front ++ '(' :: middle ∧ ∃ rest, tail = middle ++ '(' :: rest := by
  have hparts := lastGroup?_inv hgroup
  have hnone : '(' ∉ inner ++ [')'] := by simpa using hinner
  rcases List.append_eq_append_iff.mp hparts with ⟨middle, hbefore, hrest⟩ | ⟨middle, hfront, hrest⟩
  · cases middle with
    | nil =>
      rw [List.nil_append, List.cons.injEq] at hrest
      exact .inl ⟨by rw [hbefore, List.append_nil], hrest.2 ▸ hnone⟩
    | cons c middle =>
      rw [List.cons_append, List.cons.injEq] at hrest
      obtain ⟨rfl, hrest⟩ := hrest
      exact .inr ⟨middle, hbefore, _, hrest⟩
  · cases middle with
    | nil =>
      rw [List.nil_append, List.cons.injEq] at hrest
      exact .inl ⟨by rw [hfront, List.append_nil], hrest.2 ▸ hnone⟩
    | cons c middle =>
      rw [List.cons_append, List.cons.injEq] at hrest
      have hmem : '(' ∈ inner ++ [')'] := by
        rw [hrest.2]
        simp
      exact absurd hmem hnone

-- What stands in parentheses at the end may be cut short, but it is found behind the same body.
theorem body_eq_of_lastGroup? {body tail before inner b : List Char} (hbody : IsBody body)
    (htail : ∀ c ∈ tail, isBlank c = false)
    (hgroup : lastGroup? (' ' :: body ++ [' '] ++ '(' :: tail) = some (before, inner))
    (hinner : '(' ∉ inner) (hb : body? before = some b) : b = body := by
  rcases lastGroup?_append_inv hgroup hinner with ⟨rfl, -⟩ | ⟨middle, rfl, rest, rfl⟩
  · rw [body?_spaced hbody] at hb
    exact (Option.some.inj hb).symm
  · -- the parenthesis that was found stands further on, and no blank is in front of it
    have hsub : ∀ d ∈ '(' :: middle, isBlank d = false := by
      intro d hd
      rcases List.mem_cons.mp hd with rfl | hd
      · decide
      · exact htail d (List.mem_append_left _ hd)
    obtain ⟨last, hlast⟩ := Option.isSome_iff_exists.mp
      (List.getLast?_isSome.mpr (List.cons_ne_nil '(' middle))
    have hblank := isBlank_getLast_of_body? hb (c := last) (by
      rw [List.getLast?_append, hlast, Option.some_or])
    rw [hsub last (List.mem_of_getLast? hlast)] at hblank
    cases hblank

-- The body is found again unless another parenthesis is opened behind it.
theorem body_eq_iff_of_lastGroup? {body tail before inner b : List Char} (hbody : IsBody body)
    (hgroup : lastGroup? (' ' :: body ++ [' '] ++ '(' :: tail) = some (before, inner))
    (hinner : '(' ∉ inner) (hb : body? before = some b) : b = body ↔ '(' ∉ tail := by
  rcases lastGroup?_append_inv hgroup hinner with ⟨rfl, htail⟩ | ⟨middle, rfl, rest, rfl⟩
  · rw [body?_spaced hbody] at hb
    exact iff_of_true (Option.some.inj hb).symm htail
  · refine iff_of_false ?_ (by simp)
    rintro rfl
    -- the body would hold one parenthesis more than it does
    have hzero {cs : List Char} (hcs : ∀ c ∈ cs, isBlank c = true) : cs.count '(' = 0 := by
      rw [List.count_eq_zero]
      intro hmem
      exact absurd (hcs _ hmem) (by decide)
    rcases body?_parts hb with hblank | ⟨front, back, hparts, hfront, hback, -⟩
    · exact absurd (hblank '(' (by simp)) (by decide)
    · have hcount := congrArg (List.count '(') hparts
      simp only [List.count_append, List.count_cons, hzero hfront, hzero hback] at hcount
      simp at hcount

end Line

namespace ClueLine

-- What stands behind the number of a clue.
def ending (line : ClueLine) : List Char :=
  ' ' :: line.body.toList ++ [' '] ++ '(' :: (line.answer.toList ++ [')'])

theorem cleanLine_text (line : ClueLine) : cleanLine line.text.toList =
    '-' :: ' ' :: '(' :: (Nat.toDigits 10 line.position.x ++ ',' :: (Nat.toDigits 10 line.position.y ++
      ')' :: ' ' :: (Nat.toDigits 10 line.id ++ '.' :: trimEnd (dropComment line.ending)))) := by
  have hsplit : line.text.toList =
      ('-' :: ' ' :: '(' :: (Nat.toDigits 10 line.position.x ++ ',' ::
        (Nat.toDigits 10 line.position.y ++ ')' :: ' ' :: Nat.toDigits 10 line.id))) ++
          '.' :: line.ending := by
    rw [toList_text, ending]
    simp
  rw [hsplit, cleanLine_append_cons]
  · simp
  · intro d hd
    rw [List.cons_append, List.head?_cons, Option.some.injEq] at hd
    rw [← hd]
    decide
  · have hdigits (n : Nat) : '#' ∉ Nat.toDigits 10 n := (whole_toDigits n).noComment
    simp [hdigits]
  · decide
  · decide

-- As long as no comment sign comes first, the body is all there.
theorem remains_ending {line : ClueLine} (hbody : Line.IsBody line.body.toList) :
    remains line.ending =
      ' ' :: line.body.toList ++ [' '] ++ '(' :: remains (line.answer.toList ++ [')']) := by
  have hkept : ∀ c ∈ ' ' :: line.body.toList ++ [' '] ++ ['('], decide (c ≠ '#') = true := by
    intro c hc
    rw [decide_eq_true_eq]
    rintro rfl
    simp [hbody.noComment] at hc
  have hsplit : line.ending =
      (' ' :: line.body.toList ++ [' '] ++ ['(']) ++ (line.answer.toList ++ [')']) := by
    simp [ending]
  rw [remains, hsplit, dropComment, List.takeWhile_append_of_pos hkept, ← dropComment, List.append_assoc,
    List.singleton_append, trimEnd_append_cons _ (by decide), remains]

-- A clue that is read from a line has the number and the place it was written with, and its body stands
-- in front of an answer at the end of what remains.
theorem exists_group_of_read {line l : ClueLine} (h : Line.read (cleanLine line.text.toList) = .clue l) :
    l.id = line.id ∧ l.position = line.position ∧ ∃ before inner,
      Line.lastGroup? (remains line.ending) = some (before, inner) ∧ '(' ∉ inner ∧
        Line.body? before = some l.body.toList := by
  have hclue : Line.clue? (cleanLine line.text.toList) = some l := Line.clue?_of_read h
  have hhead (head : Coord × Nat × List Char)
      (h : Line.clueHead? (cleanLine line.text.toList) = some head) :
      head = (line.position, line.id, remains line.ending) := by
    rw [cleanLine_text, Line.clueHead?_written_eq_ite] at h
    split at h
    · exact (Option.some.inj h).symm
    · cases h
  unfold Line.clue? at hclue
  split at hclue
  · next position id rest hwritten =>
    have heq := hhead _ hwritten
    rw [Prod.mk.injEq, Prod.mk.injEq] at heq
    obtain ⟨rfl, rfl, rfl⟩ := heq
    split at hclue
    · next before inner hgroup =>
      split at hclue
      · next hinner =>
        obtain ⟨b, hb, rfl⟩ := Option.map_eq_some_iff.mp hclue
        refine ⟨rfl, rfl, before, inner, hgroup, Line.not_mem_of_isAnswer hinner (by decide), ?_⟩
        rw [hb, String.toList_ofList]
      · cases hclue
    · cases hclue
  · cases hclue

-- A line that was written for a clue adds a clue with the same number at the same place, or says
-- nothing; and no part of the body is lost if it holds no comment sign.
theorem read_cleanLine (line : ClueLine) :
    Line.read (cleanLine line.text.toList) = .unrecognised ∨
      ∃ l, Line.read (cleanLine line.text.toList) = .clue l ∧ l.id = line.id ∧
        l.position = line.position ∧
        (Line.IsBody line.body.toList → (∀ c ∈ line.answer.toList, isBlank c = false) →
          l.body = line.body) := by
  have hread : Line.read (cleanLine line.text.toList) =
      (Line.clue? (cleanLine line.text.toList)).elim .unrecognised .clue := by
    rw [cleanLine_text, Line.read_dashed]
  cases hclue : Line.clue? (cleanLine line.text.toList) with
  | none => exact .inl (by rw [hread, hclue]; rfl)
  | some l =>
    have hl : Line.read (cleanLine line.text.toList) = .clue l := by rw [hread, hclue]; rfl
    obtain ⟨hid, hposition, before, inner, hgroup, hinner, hb⟩ := exists_group_of_read hl
    refine .inr ⟨l, hl, hid, hposition, fun hbody hanswer => ?_⟩
    have htail : ∀ c ∈ remains (line.answer.toList ++ [')']), isBlank c = false := by
      intro c hc
      rcases List.mem_append.mp (mem_of_mem_remains hc) with hc | hc
      · exact hanswer c hc
      · rw [List.mem_singleton.mp hc]
        decide
    rw [remains_ending hbody] at hgroup
    exact String.toList_inj.mp (Line.body_eq_of_lastGroup? hbody htail hgroup hinner hb)

-- The body is whole if a line can hold it and the answer opens no other parenthesis.
theorem body_eq_iff {line l : ClueLine} (h : Line.read (cleanLine line.text.toList) = .clue l)
    (hl : Line.IsBody l.body.toList) :
    l.body = line.body ↔ Line.IsBody line.body.toList ∧ '(' ∉ dropComment line.answer.toList := by
  obtain ⟨-, -, before, inner, hgroup, hinner, hb⟩ := exists_group_of_read h
  have hwhole (hbody : Line.IsBody line.body.toList) :
      l.body = line.body ↔ '(' ∉ dropComment line.answer.toList := by
    rw [remains_ending hbody] at hgroup
    have hparen : '(' ∈ remains (line.answer.toList ++ [')']) ↔
        '(' ∈ dropComment line.answer.toList := by
      rw [remains, mem_trimEnd_iff (by decide), dropComment, List.takeWhile_append]
      split
      · next hall =>
        have hself : dropComment line.answer.toList = line.answer.toList :=
          (List.takeWhile_prefix _).eq_of_length hall
        rw [hself, List.mem_append]
        simp
      · rfl
    rw [← hparen, ← Line.body_eq_iff_of_lastGroup? hbody hgroup hinner hb]
    exact String.toList_inj.symm
  constructor
  · intro heq
    have hbody : Line.IsBody line.body.toList := heq ▸ hl
    exact ⟨hbody, (hwhole hbody).mp heq⟩
  · rintro ⟨hbody, hanswer⟩
    exact (hwhole hbody).mpr hanswer

end ClueLine

namespace Puzzle

variable {grouping : Option Direction} {ls rest : List (List Char)} {p : Puzzle}

theorem readLines_of_headings {hs : List Heading} (h : ls.map Line.read = hs.map Heading.line) :
    readLines grouping (ls ++ rest) p = readLines grouping rest (setAll hs p) := by
  induction ls generalizing hs p with
  | nil =>
    obtain rfl : hs = [] := List.map_eq_nil_iff.mp h.symm
    rfl
  | cons l ls ih =>
    cases hs with
    | nil => cases h
    | cons g hs =>
      rw [List.map_cons, List.map_cons, List.cons.injEq] at h
      rw [List.cons_append, readLines, h.1, setAll_cons]
      cases g with
      | field f value => exact ih h.2
      | size d => exact ih h.2

-- The clues of lines that are nothing else.
def cluesOf (ls : List (List Char)) (clues : List ClueLine) : List Clue :=
  List.zipWith (fun l clue => .ofLine clue (String.ofList l)) ls clues

theorem toClueLine_cluesOf {clues : List ClueLine} (h : ls.length = clues.length) :
    (cluesOf ls clues).map Clue.toClueLine = clues := by
  induction ls generalizing clues with
  | nil => exact (List.length_eq_zero_iff.mp h.symm).symm
  | cons l ls ih =>
    cases clues with
    | nil => cases h
    | cons clue clues => exact congrArg (clue :: ·) (ih (Nat.succ.inj h))

theorem readLines_of_clues (d : Direction) {clues : List ClueLine}
    (h : ls.map Line.read = clues.map Line.clue) :
    readLines (some d) (ls ++ rest) p =
      readLines (some d) rest { p with clues := p.clues.modify d (· ++ cluesOf ls clues) } := by
  induction ls generalizing clues p with
  | nil =>
    obtain rfl : clues = [] := List.map_eq_nil_iff.mp h.symm
    cases d <;> simp [Both.modify, cluesOf]
  | cons l ls ih =>
    cases clues with
    | nil => cases h
    | cons clue clues =>
      rw [List.map_cons, List.map_cons, List.cons.injEq] at h
      rw [List.cons_append, readLines, h.1]
      simp only
      rw [ih h.2]
      cases d <;> simp [addClue, Both.modify, cluesOf]

end Puzzle

theorem exists_map_eq_map {α β γ : Type} {f : α → γ} {g : β → γ} {as : List α}
    (h : ∀ a ∈ as, ∃ b, f a = g b) : ∃ bs : List β, as.map f = bs.map g := by
  induction as with
  | nil => exact ⟨[], rfl⟩
  | cons a as ih =>
    rw [List.forall_mem_cons] at h
    obtain ⟨b, hb⟩ := h.1
    obtain ⟨bs, hbs⟩ := ih h.2
    exact ⟨b :: bs, by rw [List.map_cons, List.map_cons, hb, hbs]⟩

theorem map_eq_of_map_eq {α β γ δ : Type} {f : α → γ} {g : β → γ} {u : α → δ} {v : β → δ}
    {as : List α} {bs : List β} (h : as.map f = bs.map g)
    (huv : ∀ a ∈ as, ∀ b, f a = g b → u a = v b) : as.map u = bs.map v := by
  induction as generalizing bs with
  | nil =>
    obtain rfl : bs = [] := List.map_eq_nil_iff.mp h.symm
    rfl
  | cons a as ih =>
    cases bs with
    | nil => cases h
    | cons b bs =>
      rw [List.map_cons, List.map_cons, List.cons.injEq] at h
      rw [List.forall_mem_cons] at huv
      rw [List.map_cons, List.map_cons, huv.1 b h.1, ih h.2 huv.2]

namespace Document

variable {doc : Document}

-- None of the texts in the document ends its line.
structure InLine (doc : Document) : Prop where
  fields : ∀ e ∈ doc.fields, (e.1 = "size" ∨ ∃ f : Field, e.1 = f.key) ∧
    ∀ c ∈ e.2.toList, isLineEnd c = false
  clues : ∀ d, ∀ line ∈ doc.clues.get d, (∀ c ∈ line.body.toList, isLineEnd c = false) ∧
    ∀ c ∈ line.answer.toList, isLineEnd c = false

theorem InLine.noLineEnd (h : doc.InLine) : ∀ l ∈ doc.lines, ∀ c ∈ l.toList, isLineEnd c = false := by
  have hkey (key : String) (hkey : key = "size" ∨ ∃ f : Field, key = f.key) :
      ∀ c ∈ key.toList, isLineEnd c = false := by
    rcases hkey with rfl | ⟨f, rfl⟩
    · decide
    · cases f <;> decide
  have hdigits (n : Nat) : ∀ c ∈ Nat.toDigits 10 n, isLineEnd c = false :=
    (ClueLine.whole_toDigits n).noLineEnd
  rw [lines]
  refine List.forall_mem_append.mpr ⟨?_, ?_⟩
  · rw [List.forall_mem_map]
    rintro ⟨key, value⟩ he
    obtain ⟨hknown, hvalue⟩ := h.fields _ he
    simp only [fieldLine, String.toList_append, List.forall_mem_append]
    exact ⟨⟨hkey key hknown, by decide⟩, hvalue⟩
  · intro l hl
    obtain ⟨d, -, hl⟩ := List.mem_flatMap.mp hl
    rcases List.mem_cons.mp hl with rfl | hl
    · cases d <;> decide
    · obtain ⟨line, hline, rfl⟩ := List.mem_map.mp hl
      obtain ⟨hbody, hanswer⟩ := h.clues d line hline
      rw [ClueLine.toList_text]
      simp only [List.forall_mem_cons, List.forall_mem_append]
      have hsigns : ∀ c ∈ ['-', ' ', '(', ',', ')', '.'], isLineEnd c = false := by decide
      simp +contextual [hsigns, hbody, hanswer]
      exact ⟨hdigits _, hdigits _, hdigits _⟩

theorem noLineEnd_sizeText (n : Nat) :
    ∀ c ∈ (toString n ++ "x" ++ toString n).toList, isLineEnd c = false := by
  have hdigits := (ClueLine.whole_toDigits n).noLineEnd
  simp only [String.toList_append, toList_toString, List.forall_mem_append]
  exact ⟨⟨hdigits, by decide⟩, hdigits⟩

theorem lines_text (hends : ∀ l ∈ doc.lines, ∀ c ∈ l.toList, isLineEnd c = false) :
    Text.lines doc.text.toList = doc.lines.map String.toList := by
  rw [text, String.toList_intercalate, show "\n".toList = ['\n'] from rfl, lines_intercalate]
  · simp [lines_eq]
  · exact List.forall_mem_map.mpr hends

theorem cleanLines_text (hends : ∀ l ∈ doc.lines, ∀ c ∈ l.toList, isLineEnd c = false) :
    cleanLines doc.text.toList = doc.lines.map fun l => cleanLine l.toList := by
  rw [cleanLines, lines_text hends, List.map_map]
  rfl

-- What has been read of a document: the headings and the clues that its lines were taken for.
structure ReadAs (doc : Document) (hs : List Heading) (clues : Both (List ClueLine)) : Prop where
  headings : (doc.fields.map fun e => cleanLine (fieldLine e).toList).map Line.read =
    hs.map Heading.line
  clues : ∀ d, ((doc.clues.get d).map fun l => cleanLine l.text.toList).map Line.read =
    (clues.get d).map Line.clue

theorem ReadAs.forall₂_clues {hs : List Heading} {clues : Both (List ClueLine)}
    (h : doc.ReadAs hs clues) (d : Direction) :
    List.Forall₂ (fun line l => Line.read (cleanLine line.text.toList) = .clue l) (doc.clues.get d)
      (clues.get d) := by
  have hread := h.clues d
  rw [List.map_map, map_eq_map_iff_forall₂] at hread
  simpa only [Function.comp_apply] using hread

theorem ReadAs.ids_eq {hs : List Heading} {clues : Both (List ClueLine)} (h : doc.ReadAs hs clues)
    (d : Direction) : (clues.get d).map (·.id) = (doc.clues.get d).map (·.id) := by
  rw [map_eq_map_iff_forall₂]
  exact (h.forall₂_clues d).flip.imp fun _ _ hl => (ClueLine.exists_group_of_read hl).1

theorem ReadAs.exists_line {hs : List Heading} {clues : Both (List ClueLine)} (h : doc.ReadAs hs clues)
    {d : Direction} {l : ClueLine} (hl : l ∈ clues.get d) :
    ∃ line ∈ doc.clues.get d, Line.read (cleanLine line.text.toList) = .clue l :=
  exists_of_mem_right (h.forall₂_clues d) hl

-- What an entry gives to a field.
def keptValue? (f : Field) (e : String × String) : Option String :=
  if e.1 = f.key then some (kept e.2) else none

-- A field is left with what has been kept of its last value.
theorem ReadAs.field?_setAll {hs : List Heading} {clues : Both (List ClueLine)} (h : doc.ReadAs hs clues)
    (hkeys : ∀ e ∈ doc.fields, e.1 = "size" ∨ ∃ g : Field, e.1 = g.key) {f : Field}
    (hhead : ∀ e ∈ doc.fields, e.1 = f.key → ∀ c, e.2.toList.head? = some c → isBlank c = false)
    (p : Puzzle) : (Puzzle.setAll hs p).field? f =
      (doc.fields.filterMap (keptValue? f)).getLast?.or (p.field? f) := by
  have hvalues : doc.fields.map (keptValue? f) = hs.map (Heading.value? f) := by
    have hread := h.headings
    rw [List.map_map] at hread
    refine map_eq_of_map_eq hread ?_
    rintro ⟨key, value⟩ he g hg
    rw [Function.comp_apply] at hg
    rcases hkeys _ he with hkey | ⟨other, hkey⟩
    · obtain rfl : key = "size" := hkey
      have hvalue : keptValue? f ("size", value) = none := if_neg f.key_ne_size.symm
      rw [hvalue]
      rcases Line.read_sizeLine value with hnone | ⟨d, hd⟩
      · rw [hnone] at hg
        cases g <;> cases hg
      · rw [hd] at hg
        cases g with
        | size => rfl
        | field => cases hg
    · obtain rfl : key = other.key := hkey
      rcases Line.read_fieldLine other value with hnone | ⟨v, hv, hkept⟩
      · rw [hnone] at hg
        cases g <;> cases hg
      · rw [hv] at hg
        cases g with
        | size => cases hg
        | field other' v' =>
          obtain ⟨rfl, rfl⟩ := Line.field.inj hg
          rw [keptValue?, Heading.value?]
          by_cases hf : other = f
          · subst hf
            rw [if_pos rfl, if_pos rfl, hkept (hhead _ he rfl)]
          · rw [if_neg fun hkey => hf (Field.key_inj hkey), if_neg hf]
  have hlast := congrArg (fun values => (values.filterMap id).getLast?) hvalues
  simp only [List.filterMap_map, Function.id_comp] at hlast
  rw [Puzzle.field?_setAll_eq, hlast]

-- The entries of those of the fields that have a value.
def entriesOf (value? : Field → Option String) (fs : List Field) : List (String × String) :=
  fs.flatMap fun f => ((value? f).map (f.key, ·)).toList

theorem exists_of_mem_entriesOf {value? : Field → Option String} {fs : List Field} {e : String × String}
    (h : e ∈ entriesOf value? fs) : ∃ f ∈ fs, ∃ v, value? f = some v ∧ e = (f.key, v) := by
  obtain ⟨f, hf, he⟩ := List.mem_flatMap.mp h
  obtain ⟨v, hv, rfl⟩ := Option.map_eq_some_iff.mp (Option.mem_toList.mp he)
  exact ⟨f, hf, v, hv, rfl⟩

theorem filterMap_entriesOf (value? : Field → Option String) {fs : List Field} (hfs : fs.Nodup)
    (f : Field) : (entriesOf value? fs).filterMap (keptValue? f) =
      if f ∈ fs then ((value? f).map kept).toList else [] := by
  induction fs with
  | nil => rfl
  | cons g fs ih =>
    rw [List.nodup_cons] at hfs
    have ih := ih hfs.2
    rw [entriesOf] at ih ⊢
    rw [List.flatMap_cons, List.filterMap_append, ih]
    by_cases hgf : g = f
    · subst hgf
      cases value? g <;> simp [keptValue?, hfs.1]
    · have hkey : g.key ≠ f.key := fun h => hgf (Field.key_inj h)
      have hmem : f ∈ g :: fs ↔ f ∈ fs := by simp [Ne.symm hgf]
      simp only [hmem]
      cases value? g <;> simp [keptValue?, hkey]

-- A field that has one entry at most, in front of the size and the date, is left with what has been
-- kept of the value.
theorem ReadAs.field?_setAll_entriesOf {hs : List Heading} {clues : Both (List ClueLine)}
    (h : doc.ReadAs hs clues) {value? : Field → Option String} {fs : List Field} (hfs : fs.Nodup)
    {size date : String}
    (hfields : doc.fields = entriesOf value? fs ++ [("size", size), (Field.pubdate.key, date)])
    (hvalues : ∀ f v, value? f = some v → Trimmed v.toList) {f : Field} (hf : f ≠ .pubdate)
    (hnone : f ∉ fs → value? f = none) (p : Puzzle) :
    (Puzzle.setAll hs p).field? f = ((value? f).map kept).or (p.field? f) := by
  have hentry : ∀ e ∈ doc.fields, (∃ g v, value? g = some v ∧ e = (g.key, v)) ∨
      e = ("size", size) ∨ e = (Field.pubdate.key, date) := by
    intro e he
    rw [hfields] at he
    rcases List.mem_append.mp he with he | he
    · obtain ⟨g, -, v, hv, rfl⟩ := exists_of_mem_entriesOf he
      exact .inl ⟨g, v, hv, rfl⟩
    · rw [List.mem_cons, List.mem_singleton] at he
      exact .inr he
  have hkeys : ∀ e ∈ doc.fields, e.1 = "size" ∨ ∃ g : Field, e.1 = g.key := by
    intro e he
    rcases hentry e he with ⟨g, v, -, rfl⟩ | rfl | rfl
    · exact .inr ⟨g, rfl⟩
    · exact .inl rfl
    · exact .inr ⟨.pubdate, rfl⟩
  have hhead : ∀ e ∈ doc.fields, e.1 = f.key → ∀ c, e.2.toList.head? = some c → isBlank c = false := by
    intro e he hkey
    rcases hentry e he with ⟨g, v, hv, rfl⟩ | rfl | rfl
    · exact (hvalues g v hv).head
    · exact absurd hkey.symm f.key_ne_size
    · exact absurd (Field.key_inj hkey).symm hf
  have hlast : [("size", size), (Field.pubdate.key, date)].filterMap (keptValue? f) = [] := by
    have hsize : "size" ≠ f.key := f.key_ne_size.symm
    have hpubdate : Field.pubdate.key ≠ f.key := fun h => hf (Field.key_inj h).symm
    simp [keptValue?, hsize, hpubdate]
  rw [h.field?_setAll hkeys hhead, hfields, List.filterMap_append, hlast, List.append_nil,
    filterMap_entriesOf value? hfs]
  split
  · cases value? f <;> rfl
  · next hmem => rw [hnone hmem]; rfl

theorem exists_readAs (hkeys : ∀ e ∈ doc.fields, e.1 = "size" ∨ ∃ f : Field, e.1 = f.key)
    (h : ∀ l ∈ doc.lines, Line.read (cleanLine l.toList) ≠ .unrecognised) :
    ∃ hs clues, doc.ReadAs hs clues := by
  have hheading : ∀ l ∈ doc.fields.map fun e => cleanLine (fieldLine e).toList, ∃ g : Heading,
      Line.read l = g.line := by
    rw [List.forall_mem_map]
    rintro ⟨key, value⟩ he
    have hknown := h (fieldLine (key, value)) (by
      rw [lines]
      exact List.mem_append_left _ (List.mem_map_of_mem he))
    rcases hkeys _ he with hkey | ⟨f, hkey⟩
    · obtain rfl : key = "size" := hkey
      obtain ⟨d, hd⟩ := (Line.read_sizeLine value).resolve_left hknown
      exact ⟨.size d, hd⟩
    · obtain rfl : key = f.key := hkey
      obtain ⟨v, hv, -⟩ := (Line.read_fieldLine f value).resolve_left hknown
      exact ⟨.field f v, hv⟩
  have hclue (d : Direction) : ∀ l ∈ (doc.clues.get d).map fun l => cleanLine l.text.toList,
      ∃ clue : ClueLine, Line.read l = .clue clue := by
    rw [List.forall_mem_map]
    intro line hline
    have hknown := h line.text (by
      rw [lines]
      refine List.mem_append_right _ (List.mem_flatMap.mpr ⟨d, by cases d <;> decide, ?_⟩)
      exact List.mem_cons_of_mem _ (List.mem_map_of_mem hline))
    obtain ⟨l, hl, -⟩ := (ClueLine.read_cleanLine line).resolve_left hknown
    exact ⟨l, hl⟩
  obtain ⟨hs, hheadings⟩ := exists_map_eq_map hheading
  obtain ⟨across, hacross⟩ := exists_map_eq_map (hclue .across)
  obtain ⟨down, hdown⟩ := exists_map_eq_map (hclue .down)
  refine ⟨hs, ⟨across, down⟩, hheadings, fun d => ?_⟩
  cases d with
  | across => exact hacross
  | down => exact hdown

-- The puzzle that is read has what its headings set, and the clues of its lines.
theorem ReadAs.read {hs : List Heading} {clues : Both (List ClueLine)} (h : doc.ReadAs hs clues)
    (hends : doc.InLine) :
    (∀ f, (Puzzle.read doc.text).field? f = (Puzzle.setAll hs {}).field? f) ∧
      ∀ d, ((Puzzle.read doc.text).clues.get d).map Clue.toClueLine = clues.get d := by
  have hlines : (doc.lines.map fun l => cleanLine l.toList) =
      doc.fields.map (fun e => cleanLine (fieldLine e).toList) ++ ("across:".toList ::
        (doc.clues.across.map (fun l => cleanLine l.text.toList) ++ ("down:".toList ::
          (doc.clues.down.map (fun l => cleanLine l.text.toList) ++ [])))) := by
    have hname : cleanLine "across:".toList = "across:".toList ∧
        cleanLine "down:".toList = "down:".toList := by decide
    simp [lines_eq, Function.comp_def]
    exact hname
  have hacross : Line.read "across:".toList = .grouping .across := rfl
  have hdown : Line.read "down:".toList = .grouping .down := rfl
  have hacrossClues : (doc.clues.across.map fun l => cleanLine l.text.toList).map Line.read =
      clues.across.map Line.clue := h.clues .across
  have hdownClues : (doc.clues.down.map fun l => cleanLine l.text.toList).map Line.read =
      clues.down.map Line.clue := h.clues .down
  have hread : Puzzle.read doc.text = { Puzzle.setAll hs { source := doc.text } with
      clues := Both.of fun d =>
        Puzzle.cluesOf ((doc.clues.get d).map fun l => cleanLine l.text.toList) (clues.get d) } := by
    rw [Puzzle.read, cleanLines_text hends.noLineEnd, hlines, Puzzle.readLines_of_headings h.headings,
      Puzzle.readLines, hacross]
    dsimp only
    rw [Puzzle.readLines_of_clues .across hacrossClues, Puzzle.readLines, hdown]
    dsimp only
    rw [Puzzle.readLines_of_clues .down hdownClues, Puzzle.readLines]
    simp only [Puzzle.clues_setAll, Both.modify, Both.of, Both.get, List.nil_append]
  rw [hread]
  constructor
  · intro f
    have hfield : ({ source := doc.text } : Puzzle).field? f = ({} : Puzzle).field? f := by
      cases f <;> rfl
    rw [Puzzle.field?_setAll_eq hs {}, ← hfield, ← Puzzle.field?_setAll_eq]
    generalize Puzzle.setAll hs { source := doc.text } = p
    cases f <;> rfl
  · intro d
    rw [Both.get_of]
    have hlength := congrArg List.length (h.clues d)
    rw [List.length_map, List.length_map (f := Line.clue)] at hlength
    exact Puzzle.toClueLine_cluesOf hlength

-- If nothing is wrong with such a document, all of its lines have been read.
theorem InLine.readAs (hends : doc.InLine) (h : (Puzzle.read doc.text).errors = []) :
    ∃ hs clues, doc.ReadAs hs clues ∧
      (∀ f, (Puzzle.read doc.text).field? f = (Puzzle.setAll hs {}).field? f) ∧
      ∀ d, ((Puzzle.read doc.text).clues.get d).map Clue.toClueLine = clues.get d := by
  have hknown : ∀ l ∈ doc.lines, Line.read (cleanLine l.toList) ≠ .unrecognised := by
    rw [Puzzle.read, cleanLines_text hends.noLineEnd] at h
    intro l hl
    exact (Puzzle.recognised_of_readLines h).2 _ (List.mem_map_of_mem hl)
  obtain ⟨hs, clues, hread⟩ := exists_readAs (fun e he => (hends.fields e he).1) hknown
  exact ⟨hs, clues, hread, hread.read hends⟩

end Document

end Cruciverb
