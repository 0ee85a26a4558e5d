import Cruciverb.Document.Basic
import Cruciverb.Document.Line
import Cruciverb.Proofs.Text.Lines
import Cruciverb.Proofs.Text.Numerals

namespace Cruciverb

open Cruciverb.Text

namespace Line

theorem suffix_of_dropWord? {key : Char → Char} {word cs rest : List Char}
    (h : dropWord? key word cs = some rest) : rest <:+ cs := by
  induction word generalizing cs with
  | nil =>
    cases h
    exact List.suffix_refl _
  | cons w word ih =>
    cases cs with
    | nil => cases h
    | cons c cs =>
      rw [dropWord?] at h
      split at h
      · exact (ih h).trans (List.suffix_cons c cs)
      · cases h

theorem suffix_of_dropAnyWord? {α : Type} {key : Char → Char} {words : List (List Char × α)}
    {cs rest : List Char} {a : α} (h : dropAnyWord? key words cs = some (a, rest)) :
    rest <:+ cs := by
  obtain ⟨⟨word, b⟩, -, hword⟩ := List.exists_of_findSome?_eq_some h
  obtain ⟨_, hdrop, heq⟩ := Option.map_eq_some_iff.mp hword
  cases heq
  exact suffix_of_dropWord? hdrop

theorem dropColon_suffix (cs : List Char) : dropColon cs <:+ cs := by
  unfold dropColon
  split
  · exact List.suffix_cons _ _
  · exact List.suffix_refl _

-- What a field can hold: text that fills a line of its own.
structure IsValue (cs : List Char) : Prop extends Clean cs where
  ne_nil : cs ≠ []

theorem spacedValue?_cons {cs : List Char} (h : IsValue cs) : spacedValue? (' ' :: cs) = some cs := by
  have hblank : isBlank ' ' = true := by decide
  have hstop : cs.takeWhile isBlank = [] ∧ cs.dropWhile isBlank = cs := by
    cases cs with
    | nil => exact absurd rfl h.ne_nil
    | cons c cs => simp [h.head c rfl]
  simp [spacedValue?, hblank, hstop.1, hstop.2, h.ne_nil, h.noNewline]

-- A value begins with a sign that is not blank, unless only blanks are left.
theorem spacedValue?_eq {cs value : List Char} (h : spacedValue? cs = some value) :
    (∃ c, cs.getLast? = some c ∧ isBlank c = true ∧ value = [c]) ∨
      value = trimStart cs ∧ value ≠ [] := by
  unfold spacedValue? at h
  simp only at h
  split at h
  · next hempty =>
    rw [List.isEmpty_iff] at hempty
    have hall : cs.takeWhile isBlank = cs := by
      conv => rhs; rw [← List.takeWhile_append_dropWhile (p := isBlank) (l := cs), hempty]
      rw [List.append_nil]
    split at h
    · next last before rest hrev =>
      split at h
      · cases h
      · have hlast : (cs.takeWhile isBlank).getLast? = some last := by
          rw [← List.head?_reverse, hrev]
          rfl
        have hblank := List.mem_takeWhile_imp (List.mem_of_getLast? hlast)
        rw [hall] at hlast
        exact .inl ⟨last, hlast, hblank, (Option.some.inj h).symm⟩
    · cases h
  · next hne =>
    split at h
    · cases h
    · cases h
      exact .inr ⟨rfl, by simpa using hne⟩

-- The end of the line is the end of its value.
theorem spacedValue?_inv {line cs value : List Char} (hline : Clean line) (hsuffix : cs <:+ line)
    (h : spacedValue? cs = some value) : IsValue value := by
  have hlast : ∀ c, cs.getLast? = some c → isBlank c = false := by
    intro c hc
    obtain ⟨front, rfl⟩ := hsuffix
    exact hline.last c (by rw [List.getLast?_append, hc, Option.some_or])
  rcases spacedValue?_eq h with ⟨c, hc, hblank, -⟩ | ⟨rfl, hne⟩
  · -- the line ends with no blank
    rw [hlast c hc] at hblank
    cases hblank
  · have hsub : trimStart cs <:+ line := (List.dropWhile_suffix _).trans hsuffix
    have hwhole : Whole (trimStart cs) := hline.toWhole.of_subset fun c hc => hsub.subset hc
    refine { hwhole with head := fun _ => head?_trimStart_not_blank, last := ?_, ne_nil := hne }
    intro c hc
    obtain ⟨front, hfront⟩ := List.dropWhile_suffix (l := cs) isBlank
    exact hlast c (by rw [← hfront, List.getLast?_append, ← trimStart, hc, Option.some_or])

theorem field?_fieldLine {f : Field} (hf : f ≠ .pubdate) {value : List Char}
    (h : IsValue value) : field? (f.key.toList ++ ':' :: ' ' :: value) = some (f, value) := by
  have hvalue := spacedValue?_cons h
  have hdrop : dropAnyWord? Char.toLower fieldKeys (f.key.toList ++ ':' :: ' ' :: value) =
      some (f, ':' :: ' ' :: value) := by
    cases f with
    | pubdate => exact absurd rfl hf
    | version | name | author | editor | copyright | publisher => rfl
  rw [field?, hdrop]
  simp only [dropColon, hvalue, Option.map_some]

theorem pubdate?_fieldLine {value : List Char} (h : IsValue value)
    (hdate : isDateShape value = true) :
    pubdate? (Field.pubdate.key.toList ++ ':' :: ' ' :: value) = some value := by
  have hdrop : dropWord? Char.toLower "pubdate".toList
      (Field.pubdate.key.toList ++ ':' :: ' ' :: value) = some (':' :: ' ' :: value) := rfl
  rw [pubdate?, hdrop]
  simp only [dropColon, spacedValue?_cons h, hdate, if_true]

theorem field?_inv {line value : List Char} {f : Field} (hline : Clean line)
    (h : field? line = some (f, value)) : IsValue value := by
  unfold field? at h
  split at h
  · next key rest hdrop =>
    obtain ⟨_, hvalue, heq⟩ := Option.map_eq_some_iff.mp h
    cases heq
    exact spacedValue?_inv hline
      ((dropColon_suffix rest).trans (suffix_of_dropAnyWord? hdrop)) hvalue
  · cases h

-- A date has a kind of line of its own.
theorem field?_ne_pubdate {line value : List Char} {f : Field} (h : field? line = some (f, value)) :
    f ≠ .pubdate := by
  unfold field? at h
  split at h
  · next key rest hdrop =>
    obtain ⟨_, -, heq⟩ := Option.map_eq_some_iff.mp h
    cases heq
    obtain ⟨⟨word, g⟩, hmem, hword⟩ := List.exists_of_findSome?_eq_some hdrop
    obtain ⟨_, -, heq⟩ := Option.map_eq_some_iff.mp hword
    cases heq
    have hall : ∀ e ∈ fieldKeys, e.2 ≠ .pubdate := by decide
    exact hall _ hmem
  · cases h

theorem pubdate?_inv {line value : List Char} (hline : Clean line)
    (h : pubdate? line = some value) : IsValue value ∧ isDateShape value = true := by
  unfold pubdate? at h
  split at h
  · next rest hdrop =>
    split at h
    · next hvalue =>
      split at h
      · next hdate =>
        cases h
        exact ⟨spacedValue?_inv hline
          ((dropColon_suffix rest).trans (suffix_of_dropWord? hdrop)) hvalue, hdate⟩
      · cases h
    · cases h
  · cases h

end Line

-- A value that a line of its own can give to the field.
structure Field.Takes (f : Field) (value : String) : Prop where
  isValue : Line.IsValue value.toList
  date : f = .pubdate → Line.isDateShape value.toList = true

theorem Field.takes_pubdate {date : String} (h : Line.isDateShape date.toList = true) :
    Field.pubdate.Takes date := by
  refine ⟨?_, fun _ => h⟩
  -- the signs of a date are digits and slashes
  have hsigns : ∀ c ∈ date.toList, isDecimalDigit c = true ∨ c = '/' := by
    unfold Line.isDateShape at h
    split at h
    · next heq =>
      rw [heq]
      simp only [List.all_cons, List.all_nil, Bool.and_true, Bool.and_eq_true] at h
      simp [h]
    · cases h
  have hblank : ∀ c ∈ date.toList, isBlank c = false := by
    intro c hc
    rcases hsigns c hc with hdigit | rfl
    · exact isBlank_of_isDecimalDigit hdigit
    · decide
  refine {
    noLineEnd := ?noLineEnd
    noComment := ?noComment
    head := ?head
    last := ?last
    ne_nil := ?ne_nil }
  case noLineEnd =>
    intro c hc
    rw [← Bool.not_eq_true]
    intro hend
    have := hblank c hc
    rw [isBlank_of_isLineEnd hend] at this
    cases this
  case noComment =>
    intro hc
    rcases hsigns _ hc with hdigit | heq
    · exact absurd hdigit (by decide)
    · exact absurd heq (by decide)
  case head => exact fun c hc => hblank c (List.mem_of_head? hc)
  case last => exact fun c hc => hblank c (List.mem_of_getLast? hc)
  case ne_nil =>
    intro hnil
    rw [hnil] at h
    cases h

end Cruciverb
