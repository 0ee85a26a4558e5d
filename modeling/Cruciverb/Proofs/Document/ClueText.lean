import Cruciverb.Proofs.Answer.Spelling
import Cruciverb.Proofs.Document.FieldLine

namespace Cruciverb

open Cruciverb.Text

namespace Line

-- Every character of an answer lies behind the parentheses, the comment sign and the space.
theorem le_toNat_of_isAnswer {answer : List Char} (h : isAnswer answer = true) {c : Char}
    (hc : c ∈ answer) : 42 ≤ c.toNat := by
  have hsep : ∀ {c : Char}, Answer.isSeparator c = true → 42 ≤ c.toNat := by
    intro c hsep
    rcases Answer.eq_of_isSeparator hsep with rfl | rfl <;> decide
  rw [isAnswer, Bool.or_eq_true] at h
  rcases h with h | h
  · rw [Answer.isLettered, Bool.and_eq_true, List.all_eq_true] at h
    have hclass := h.2 c hc
    simp only [Bool.or_eq_true, beq_iff_eq] at hclass
    rcases hclass with (hcap | hstar) | hs
    · have := Answer.toNat_of_isCapital hcap
      omega
    · rw [hstar]; decide
    · exact hsep hs
  · rw [Bool.and_eq_true, List.all_eq_true] at h
    have hclass := h.2 c hc
    rw [Bool.or_eq_true] at hclass
    rcases hclass with hdigit | hs
    · have := toNat_of_isDigit hdigit
      omega
    · exact hsep hs

theorem not_mem_of_isAnswer {answer : List Char} (h : isAnswer answer = true) {c : Char}
    (hc : c.toNat < 42) : c ∉ answer := fun hm =>
  absurd (le_toNat_of_isAnswer h hm) (by omega)

theorem whole_of_isAnswer {answer : List Char} (h : isAnswer answer = true) : Whole answer := by
  refine ⟨?_, not_mem_of_isAnswer h (by decide)⟩
  intro c hc
  have hle := le_toNat_of_isAnswer h hc
  simp only [isLineEnd, Bool.or_eq_false_iff, beq_eq_false_iff_ne, ne_eq]
  constructor <;> rintro rfl <;> revert hle <;> decide

-- What may stand between two parts of a line.
structure Blanks (cs : List Char) : Prop where
  ne_nil : cs ≠ []
  blank : ∀ c ∈ cs, isBlank c = true

theorem blanks_space : Blanks [' '] := ⟨by decide, by decide⟩

-- Blanks are skipped up to where the next part begins.
theorem Blanks.skip {front rest : List Char} (h : Blanks front)
    (hrest : ∀ c, rest.head? = some c → isBlank c = false) :
    (front ++ rest).dropWhile isBlank = rest ∧ ((front ++ rest).takeWhile isBlank).isEmpty = false := by
  constructor
  · rw [List.dropWhile_append_of_pos h.blank]
    exact trimStart_eq_self hrest
  · rw [List.takeWhile_append_of_pos h.blank, ← Bool.not_eq_true, List.isEmpty_iff,
      List.append_eq_nil_iff]
    exact fun hnil => h.ne_nil hnil.1

-- A body begins behind all blanks in front of it, and the blanks behind it but the last belong to it.
theorem body?_between {front body back : List Char} (hfront : Blanks front) (hback : Blanks back)
    (hne : body ≠ []) (hhead : ∀ c, body.head? = some c → isBlank c = false)
    (hline : '\n' ∉ body ++ back) : body? (front ++ body ++ back) = some (body ++ back.dropLast) := by
  obtain ⟨init, last, rfl⟩ : ∃ init last, back = init ++ [last] :=
    ⟨_, _, (List.dropLast_concat_getLast hback.ne_nil).symm⟩
  have hrest : ∀ c, (body ++ (init ++ [last])).head? = some c → isBlank c = false := by
    intro c hc
    cases body with
    | nil => exact absurd rfl hne
    | cons b body => exact hhead c hc
  obtain ⟨hskip, hsome⟩ := hfront.skip hrest
  have hinner : (body ++ (init ++ [last])).isEmpty = false := by simp
  have hkept : (body ++ init).takeWhile (· ≠ '\n') = body ++ init := by
    rw [List.takeWhile_eq_self_iff]
    intro c hc
    have hmem : c ∈ body ++ (init ++ [last]) := by
      rw [← List.append_assoc]
      exact List.mem_append_left _ hc
    simpa using fun heq : c = '\n' => hline (heq ▸ hmem)
  have hlast : isBlank last = true := hback.blank last (by simp)
  rw [List.append_assoc]
  simp only [body?, hskip, hsome, hinner, Bool.false_eq_true, if_false, List.dropLast_concat]
  rw [← List.append_assoc, List.dropLast_concat, hkept, List.drop_left]
  simp [hlast]

-- What can stand between the blanks on the two sides of a body and be found again. A single blank
-- can, where there is nothing else.
structure IsBody (cs : List Char) : Prop extends Whole cs where
  ne_nil : cs ≠ []
  head : (∀ c, cs.head? = some c → isBlank c = false) ∨ cs.length = 1

theorem body?_spaced {cs : List Char} (h : IsBody cs) : body? (' ' :: cs ++ [' ']) = some cs := by
  have hblank : isBlank ' ' = true := by decide
  by_cases hhead : ∀ c, cs.head? = some c → isBlank c = false
  · have hline : '\n' ∉ cs ++ [' '] := by simpa using h.noNewline
    rw [show ' ' :: cs = [' '] ++ cs from rfl,
      body?_between blanks_space blanks_space h.ne_nil hhead hline]
    exact congrArg some (List.append_nil cs)
  · -- a single blank between two others
    obtain ⟨c, rfl⟩ := List.length_eq_one_iff.mp (h.head.resolve_left hhead)
    have hc : isBlank c = true := by simpa using hhead
    have hne : c ≠ '\n' := by
      rintro rfl
      exact h.noNewline (by simp)
    simp [body?, hblank, hc, hne]

theorem body?_inv {cs body : List Char} (hcs : Whole cs) (h : body? cs = some body) :
    IsBody body := by
  unfold body? at h
  simp only at h
  split at h
  · cases h
  split at h
  · obtain ⟨c, hc, rfl⟩ := Option.map_eq_some_iff.mp h
    have hmem : c ∈ cs :=
      List.mem_of_mem_tail (List.dropLast_subset _ (List.mem_reverse.mp (List.mem_of_find?_eq_some hc)))
    have hwhole : Whole [c] := hcs.of_subset fun d hd => by
      rw [List.mem_singleton.mp hd]; exact hmem
    exact { hwhole with ne_nil := by simp, head := .inr rfl }
  · next hne =>
    split at h
    · next hrest =>
      cases h
      have hinner : ∀ c ∈ cs.dropWhile isBlank, c ∈ cs := fun c hc =>
        (List.dropWhile_sublist _).subset hc
      have hkept : (cs.dropWhile isBlank).dropLast.takeWhile (· ≠ '\n') =
          (cs.dropWhile isBlank).dropLast := by
        rw [List.takeWhile_eq_self_iff]
        intro c hc
        simpa using fun heq : c = '\n' =>
          hcs.noNewline (heq ▸ hinner c (List.dropLast_subset _ hc))
      rw [hkept] at hrest ⊢
      have hfirst : ∀ c, (trimStart cs).head? = some c → isBlank c = false := fun _ =>
        head?_trimStart_not_blank
      rw [trimStart] at hfirst
      generalize cs.dropWhile isBlank = inner at *
      have hwhole : Whole inner.dropLast := hcs.of_subset fun c hc =>
        hinner c (List.dropLast_subset _ hc)
      cases inner with
      | nil => simp at hne
      | cons c inner =>
        cases inner with
        | nil => simp [hfirst c rfl] at hrest
        | cons d inner =>
          exact { hwhole with ne_nil := by simp, head := .inl (by simpa using hfirst) }
    · cases h

theorem lastGroup?_append {before inner : List Char} (h : '(' ∉ inner) :
    lastGroup? (before ++ '(' :: (inner ++ [')'])) = some (before, inner) := by
  have hrev : (before ++ '(' :: (inner ++ [')'])).reverse =
      ')' :: (inner.reverse ++ '(' :: before.reverse) := by simp
  have hpass : ∀ c ∈ inner.reverse, decide (c ≠ '(') = true := by
    intro c hc
    simpa using fun heq : c = '(' => h (heq ▸ List.mem_reverse.mp hc)
  have hdrop : (inner.reverse ++ '(' :: before.reverse).dropWhile (· ≠ '(') =
      '(' :: before.reverse := by
    rw [List.dropWhile_append_of_pos hpass]
    rfl
  have htake : (inner.reverse ++ '(' :: before.reverse).takeWhile (· ≠ '(') = inner.reverse := by
    rw [List.takeWhile_append_of_pos hpass]
    simp
  simp only [lastGroup?, hrev, hdrop, htake, List.reverse_reverse]

theorem lastGroup?_inv {cs before inner : List Char} (h : lastGroup? cs = some (before, inner)) :
    cs = before ++ '(' :: (inner ++ [')']) := by
  unfold lastGroup? at h
  split at h
  · next back hback =>
    split at h
    · next c front hfront =>
      cases h
      have hc : c = '(' := by
        have := List.head?_dropWhile_not (fun c : Char => decide (c ≠ '(')) back
        rw [hfront] at this
        simpa using this
      have happend := List.takeWhile_append_dropWhile (p := fun c : Char => decide (c ≠ '(')) (l := back)
      rw [hfront, hc] at happend
      rw [← List.reverse_reverse cs, hback]
      conv => lhs; rw [← happend]
      simp only [List.reverse_cons, List.reverse_append, List.append_assoc, List.cons_append,
        List.nil_append]
    · cases h
  · cases h

-- Numbers may be written in any way, and any blanks may be in front of the last.
theorem clueHead?_spaced {x y id blanks : List Char} (hx : isNumeral x = true) (hy : isNumeral y = true)
    (hid : isNumeral id = true) (hblanks : Blanks blanks) (rest : List Char) :
    clueHead? ('-' :: ' ' :: '(' :: (x ++ ',' :: (y ++ ')' :: (blanks ++ (id ++ '.' :: rest))))) =
      match readNumeral? wordLimit x, readNumeral? wordLimit y, readNumeral? idLimit id with
      | some x, some y, some id => some (⟨x, y⟩, id, rest)
      | _, _, _ => none := by
  have hblank : isBlank ' ' = true := by decide
  have hrest : ∀ c, (id ++ '.' :: rest).head? = some c → isBlank c = false := by
    intro c hc
    cases id with
    | nil => cases hid
    | cons d id =>
      obtain rfl : d = c := Option.some.inj hc
      exact isBlank_of_isDigit (isDigit_of_isNumeral hid (by simp))
  obtain ⟨hskip, hsome⟩ := hblanks.skip hrest
  simp only [clueHead?, hblank, if_true]
  rw [spanDigits_append_of (fun _ => isDigit_of_isNumeral hx) (by simp)]
  simp only
  rw [spanDigits_append_of (fun _ => isDigit_of_isNumeral hy) (by simp)]
  simp only [hsome, hskip, Bool.false_eq_true, if_false]
  rw [spanDigits_append_of (fun _ => isDigit_of_isNumeral hid) (by simp)]
  rfl

theorem clueHead?_written_eq_ite (x y id : Nat) (rest : List Char) :
    clueHead? ('-' :: ' ' :: '(' :: (Nat.toDigits 10 x ++ ',' :: (Nat.toDigits 10 y ++
      ')' :: ' ' :: (Nat.toDigits 10 id ++ '.' :: rest)))) =
      if x < wordLimit ∧ y < wordLimit ∧ id < idLimit then some (⟨x, y⟩, id, rest) else none := by
  refine (clueHead?_spaced (isNumeral_toDigits x) (isNumeral_toDigits y) (isNumeral_toDigits id)
    blanks_space rest).trans ?_
  simp only [readNumeral?_toDigits_eq_ite]
  by_cases hx : x < wordLimit
  · by_cases hy : y < wordLimit
    · by_cases hid : id < idLimit
      · simp [hx, hy, hid]
      · simp [hx, hy, hid]
    · simp [hx, hy]
  · simp [hx]

theorem clueHead?_written {x y id : Nat} (hx : x < wordLimit) (hy : y < wordLimit)
    (hid : id < idLimit) (rest : List Char) :
    clueHead? ('-' :: ' ' :: '(' :: (Nat.toDigits 10 x ++ ',' :: (Nat.toDigits 10 y ++
      ')' :: ' ' :: (Nat.toDigits 10 id ++ '.' :: rest)))) = some (⟨x, y⟩, id, rest) := by
  rw [clueHead?_written_eq_ite, if_pos ⟨hx, hy, hid⟩]

theorem suffix_of_spanDigits {cs ds rest : List Char} {c : Char}
    (h : spanDigits cs = (ds, c :: rest)) : rest <:+ cs := by
  have hrest : cs.dropWhile Char.isDigit = c :: rest := congrArg Prod.snd h
  exact (List.suffix_cons c rest).trans (hrest ▸ List.dropWhile_suffix _)

theorem clueHead?_inv {cs rest : List Char} {position : Coord} {id : Nat}
    (h : clueHead? cs = some (position, id, rest)) :
    position.x < wordLimit ∧ position.y < wordLimit ∧ id < idLimit ∧ rest <:+ cs := by
  unfold clueHead? at h
  split at h
  · next blank cs =>
    split at h
    · split at h
      · next h₁ =>
        split at h
        · next h₂ =>
          split at h
          · cases h
          · split at h
            · next h₃ =>
              split at h
              · next hx hy hid =>
                cases h
                refine ⟨readNumeral?_lt hx, readNumeral?_lt hy, readNumeral?_lt hid, ?_⟩
                have hcs := ((suffix_of_spanDigits h₃).trans (List.dropWhile_suffix _)).trans
                  ((suffix_of_spanDigits h₂).trans (suffix_of_spanDigits h₁))
                exact hcs.trans ⟨['-', blank, '('], rfl⟩
              · cases h
            · cases h
        · cases h
      · cases h
    · cases h
  · cases h

-- The parts of the line that a clue is read from.
theorem clue?_of_parts {cs before answer body : List Char} {position : Coord} {id : Nat}
    (hhead : clueHead? cs = some (position, id, before ++ '(' :: (answer ++ [')'])))
    (hbody : body? before = some body) (hanswer : isAnswer answer = true) :
    clue? cs = some ⟨position, id, String.ofList body, String.ofList answer⟩ := by
  have hparen : '(' ∉ answer := not_mem_of_isAnswer hanswer (by decide)
  simp only [clue?, hhead, lastGroup?_append hparen, hanswer, hbody, if_true, Option.map_some]

theorem clue?_written {position : Coord} {id : Nat} {body answer : List Char}
    (hx : position.x < wordLimit) (hy : position.y < wordLimit) (hid : id < idLimit)
    (hbody : IsBody body) (hanswer : isAnswer answer = true) :
    clue? ('-' :: ' ' :: '(' :: (Nat.toDigits 10 position.x ++ ',' :: (Nat.toDigits 10 position.y ++
      ')' :: ' ' :: (Nat.toDigits 10 id ++ '.' :: (' ' :: body ++ [' '] ++ '(' :: (answer ++ [')'])))))) =
      some ⟨position, id, String.ofList body, String.ofList answer⟩ :=
  clue?_of_parts (clueHead?_written hx hy hid _) (body?_spaced hbody) hanswer

theorem clue?_inv {cs : List Char} {line : ClueLine} (hcs : Whole cs) (h : clue? cs = some line) :
    line.position.x < wordLimit ∧ line.position.y < wordLimit ∧ line.id < idLimit ∧
      IsBody line.body.toList ∧ isAnswer line.answer.toList = true := by
  unfold clue? at h
  split at h
  · next position id rest hhead =>
    obtain ⟨hx, hy, hid, hsuffix⟩ := clueHead?_inv hhead
    split at h
    · next before answer hgroup =>
      split at h
      · next hanswer =>
        obtain ⟨body, hbody, rfl⟩ := Option.map_eq_some_iff.mp h
        have hbefore : Whole before := hcs.of_subset fun c hc => hsuffix.subset (by
          rw [lastGroup?_inv hgroup]
          exact List.mem_append_left _ hc)
        exact ⟨hx, hy, hid, by simpa using body?_inv hbefore hbody, by simpa using hanswer⟩
      · cases h
    · cases h
  · cases h

theorem clue?_of_read {cs : List Char} {line : ClueLine} (h : read cs = .clue line) :
    clue? cs = some line := by
  unfold read at h
  repeat' split at h
  all_goals try cases h
  assumption

-- A dash and a space begin no line of any other kind.
theorem read_dashed (rest : List Char) : read ('-' :: ' ' :: '(' :: rest) =
    (clue? ('-' :: ' ' :: '(' :: rest)).elim .unrecognised .clue := by
  have hfield : field? ('-' :: ' ' :: '(' :: rest) = none := rfl
  have hpubdate : pubdate? ('-' :: ' ' :: '(' :: rest) = none := rfl
  have hsize : size? ('-' :: ' ' :: '(' :: rest) = none := rfl
  have hgrouping : grouping? ('-' :: ' ' :: '(' :: rest) = none := rfl
  have hfront : isFrontMatter ('-' :: ' ' :: '(' :: rest) = false := rfl
  cases hclue : clue? ('-' :: ' ' :: '(' :: rest) with
  | none => simp [read, hfield, hpubdate, hsize, hgrouping, hfront, hclue]
  | some l => simp [read, hfield, hpubdate, hsize, hgrouping, hfront, hclue]

end Line

-- A clue that can be written on a line of its own.
structure ClueLine.Writable (line : ClueLine) : Prop where
  x_lt : line.position.x < wordLimit
  y_lt : line.position.y < wordLimit
  id_lt : line.id < idLimit
  body : Line.IsBody line.body.toList
  answer : Line.isAnswer line.answer.toList = true

namespace ClueLine

theorem toList_text (line : ClueLine) :
    line.text.toList = '-' :: ' ' :: '(' :: (Nat.toDigits 10 line.position.x ++ ',' ::
      (Nat.toDigits 10 line.position.y ++ ')' :: ' ' :: (Nat.toDigits 10 line.id ++ '.' ::
        (' ' :: line.body.toList ++ [' '] ++ '(' :: (line.answer.toList ++ [')']))))) := by
  simp [text, Coord.text]

theorem whole_toDigits (n : Nat) : Whole (Nat.toDigits 10 n) := by
  have hdigit : ∀ c ∈ Nat.toDigits 10 n, c.isDigit = true := fun c => isDigit_of_mem_toDigits
  constructor
  · intro c hc
    simp only [isLineEnd, Bool.or_eq_false_iff, beq_eq_false_iff_ne, ne_eq]
    constructor <;> rintro rfl <;> exact absurd (hdigit _ hc) (by decide)
  · intro hc
    exact absurd (hdigit _ hc) (by decide)

theorem Writable.clean_text {line : ClueLine} (h : line.Writable) : Clean line.text.toList := by
  have hwhole : Whole line.text.toList := by
    rw [toList_text]
    simp [whole_toDigits, h.body.toWhole, Line.whole_of_isAnswer h.answer, isLineEnd]
  refine { hwhole with head := ?_, last := ?_ }
  · intro c hc
    rw [toList_text, List.head?_cons, Option.some.injEq] at hc
    rw [← hc]
    decide
  · intro c hc
    have hlast : line.text.toList.getLast? = some ')' := by
      rw [text, String.toList_append, List.getLast?_append]
      rfl
    rw [hlast, Option.some.injEq] at hc
    rw [← hc]
    decide

theorem Writable.read_text {line : ClueLine} (h : line.Writable) :
    Line.read line.text.toList = .clue line := by
  have hclue := Line.clue?_written h.x_lt h.y_lt h.id_lt h.body h.answer
  rw [← toList_text] at hclue
  rw [toList_text] at hclue ⊢
  generalize Nat.toDigits 10 line.position.x ++ ',' :: (Nat.toDigits 10 line.position.y ++
    ')' :: ' ' :: (Nat.toDigits 10 line.id ++ '.' :: (' ' :: line.body.toList ++ [' '] ++
      '(' :: (line.answer.toList ++ [')'])))) = rest at hclue ⊢
  simp [Line.read_dashed, hclue]

theorem writable_of_read {cs : List Char} {line : ClueLine} (hcs : Clean cs)
    (h : Line.read cs = .clue line) : line.Writable := by
  obtain ⟨hx, hy, hid, hbody, hanswer⟩ := Line.clue?_inv hcs.toWhole (Line.clue?_of_read h)
  exact ⟨hx, hy, hid, hbody, hanswer⟩

end ClueLine

end Cruciverb
