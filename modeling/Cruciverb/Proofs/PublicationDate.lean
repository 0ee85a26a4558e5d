import Cruciverb.PublicationDate
import Cruciverb.Proofs.Document.Reading
import Mathlib.Data.List.Basic
import Mathlib.Tactic.IntervalCases
import Mathlib.Tactic.SplitIfs
import Std.Time

namespace Cruciverb.PublicationDate

open Cruciverb.Text

section Calendar

open Std.Time

def ofDay (day : PlainDate) : PublicationDate := ⟨day.year, day.month.toNat, day.day.toNat⟩

theorem isLeap_eq (year : Int) : Year.Offset.isLeap year = isLeap year := by
  have htmod (n : Int) : year.tmod n = 0 ↔ year % n = 0 := by
    rw [← Int.dvd_iff_tmod_eq_zero, Int.dvd_iff_emod_eq_zero]
  rw [Bool.eq_iff_iff]
  simp only [isLeap, Year.Offset.isLeap, Year.Offset.toInt, Bool.and_eq_true, Bool.or_eq_true,
    decide_eq_true_eq, beq_iff_eq, bne_iff_ne, ne_eq, htmod]

theorem days_eq (year : Int) (month : Month.Ordinal) :
    (month.days (Year.Offset.isLeap year)).val = daysIn year month.toNat := by
  rw [isLeap_eq, daysIn]
  obtain ⟨m, hfirst, hlast⟩ := month
  interval_cases m <;> cases isLeap year <;> rfl

-- The days are those of the calendar of the standard library.
theorem real_iff {date : PublicationDate} : date.Real ↔ ∃ day, ofDay day = date := by
  constructor
  · rintro ⟨hmonth, hmonth', hday, hday'⟩
    let month : Month.Ordinal := ⟨date.month, by omega, by omega⟩
    have hdays : (month.days (Year.Offset.isLeap date.year)).val = daysIn date.year date.month :=
      days_eq date.year month
    have hlast := (month.days (Year.Offset.isLeap date.year)).property.2
    let day : Day.Ordinal := ⟨date.day, by omega, by omega⟩
    have hvalid : day.val ≤ (month.days (Year.Offset.isLeap date.year)).val := by
      rw [hdays]
      exact Int.ofNat_le.mpr hday'
    exact ⟨⟨date.year, month, day, hvalid⟩, rfl⟩
  · rintro ⟨⟨year, month, day, hvalid⟩, rfl⟩
    have hdays : (month.days (Year.Offset.isLeap year)).val = daysIn year month.toNat :=
      days_eq year month
    have hle : day.val ≤ (month.days (Year.Offset.isLeap year)).val := hvalid
    obtain ⟨hm, hm'⟩ := month.property
    obtain ⟨hd, hd'⟩ := day.property
    have hmonth : (month.toNat : Int) = month.val := by
      obtain ⟨m, hfirst, hlast⟩ := month
      interval_cases m <;> rfl
    have hday : (day.toNat : Int) = day.val := Int.toNat_of_nonneg (by omega)
    refine ⟨?_, ?_, ?_, ?_⟩ <;> simp only [ofDay] <;> omega

theorem Real.bounds {date : PublicationDate} (h : date.Real) :
    1 ≤ date.month ∧ date.month ≤ 12 ∧ 1 ≤ date.day ∧ date.day ≤ 31 := by
  obtain ⟨hmonth, hmonth', hday, hday'⟩ := h
  refine ⟨hmonth, hmonth', hday, hday'.trans ?_⟩
  unfold daysIn
  repeat' split
  all_goals decide

-- A year that the calendar reaches.
def InReach (date : PublicationDate) : Prop := firstYear ≤ date.year ∧ date.year ≤ lastYear

end Calendar

-- A text for a date in its parts.
structure Spelling where
  front : List Char
  sign : List Char
  year : List Char
  beforeMonth : List Char
  month : List Char
  beforeDay : List Char
  day : List Char
  back : List Char

namespace Spelling

def core (s : Spelling) : List Char :=
  s.sign ++ (s.year ++ '/' :: (s.beforeMonth ++ (s.month ++ '/' :: (s.beforeDay ++ s.day))))

def text (s : Spelling) : List Char := s.front ++ (s.core ++ s.back)

def date (s : Spelling) : PublicationDate where
  year := if s.sign = ['-'] then -(Nat.ofDigitChars 10 s.year 0 : Int) else Nat.ofDigitChars 10 s.year 0
  month := Nat.ofDigitChars 10 s.month 0
  day := Nat.ofDigitChars 10 s.day 0

-- Blanks before each number and at the end, and numbers that are not too long; a year with a sign has no
-- greatest length.
structure Grammatical (s : Spelling) : Prop where
  blanks : ∀ cs ∈ [s.front, s.beforeMonth, s.beforeDay, s.back], ∀ c ∈ cs, isBlank c = true
  sign : s.sign = [] ∧ s.year.length ≤ 4 ∨ s.sign = ['+'] ∨ s.sign = ['-']
  numerals : ∀ cs ∈ [s.year, s.month, s.day], isNumeral cs = true
  month : s.month.length ≤ 2
  day : s.day.length ≤ 2

end Spelling

-- The text spells the date.
def Names (text : String) (date : PublicationDate) : Prop :=
  ∃ s : Spelling, s.Grammatical ∧ s.text = text.toList ∧ s.date = date

section Numbers

theorem exists_digit_append {ds : List Char} (hds : isNumeral ds = true) (rest : List Char) :
    ∃ c cs, ds ++ rest = c :: cs ∧ c.isDigit = true := by
  obtain ⟨hne, hdigits⟩ := isNumeral_iff.mp hds
  obtain ⟨c, cs, rfl⟩ := List.exists_cons_of_ne_nil hne
  exact ⟨c, cs ++ rest, rfl, hdigits c List.mem_cons_self⟩

theorem head_numeral_append {ds : List Char} (hds : isNumeral ds = true) (rest : List Char) :
    ∀ c, (ds ++ rest).head? = some c → isBlank c = false := by
  obtain ⟨c, cs, hcs, hc⟩ := exists_digit_append hds rest
  rw [hcs]
  rintro _ ⟨rfl⟩
  exact isBlank_of_isDigit hc

theorem number_append {width : Nat} {ds rest : List Char} (hds : isNumeral ds = true)
    (hlen : ds.length ≤ width) (hrest : ∀ c, rest.head? = some c → c.isDigit = false) :
    number width (ds ++ rest) = .ok (Nat.ofDigitChars 10 ds 0, rest) := by
  have htaken : ((ds ++ rest).take width).takeWhile Char.isDigit = ds := by
    have hstop : (rest.take (width - ds.length)).takeWhile Char.isDigit = [] := by
      cases rest with
      | nil => simp
      | cons c rest =>
        cases width - ds.length with
        | zero => rfl
        | succ k => simp [hrest c rfl]
    rw [List.take_append, List.take_of_length_le hlen,
      List.takeWhile_append_of_pos (isNumeral_iff.mp hds).2, hstop, List.append_nil]
  obtain ⟨c, cs, hcs, hc⟩ := exists_digit_append hds rest
  have hdrop : (ds ++ rest).drop ds.length = rest := List.drop_left
  rw [hcs] at htaken hdrop ⊢
  rw [number, if_pos hc]
  simp only [htaken, hdrop]

-- Where nothing is left to read, the width does not matter.
theorem number_inv {width n : Nat} {cs rest : List Char} (hwidth : cs ≠ [] → 0 < width)
    (h : number width cs = .ok (n, rest)) :
    ∃ ds, cs = ds ++ rest ∧ isNumeral ds = true ∧ ds.length ≤ width ∧ Nat.ofDigitChars 10 ds 0 = n := by
  unfold number at h
  split at h
  · cases h
  next c cs =>
  split at h
  · next hc =>
    cases h
    have hprefix : ((c :: cs).take width).takeWhile Char.isDigit <+: c :: cs :=
      (List.takeWhile_prefix _).trans (List.take_prefix _ _)
    refine ⟨_, (List.prefix_iff_eq_append.mp hprefix).symm, ?_, ?_, rfl⟩
    · refine isNumeral_iff.mpr ⟨?_, fun d hd => List.mem_takeWhile_imp hd⟩
      obtain ⟨k, rfl⟩ := Nat.exists_eq_succ_of_ne_zero (hwidth (by simp)).ne'
      simp [hc]
    · exact (List.takeWhile_prefix _).length_le.trans (List.length_take_le _ _)
  · cases h

theorem signed_inv {width : Nat} {f : Nat → Int} {year : Int} {cs rest : List Char}
    (hwidth : cs ≠ [] → 0 < width)
    (h : ((number width cs).map fun (n, rest) => (f n, rest)) = .ok (year, rest)) :
    ∃ ds, cs = ds ++ rest ∧ isNumeral ds = true ∧ ds.length ≤ width ∧
      f (Nat.ofDigitChars 10 ds 0) = year := by
  cases hn : number width cs with
  | error e =>
    rw [hn] at h
    cases h
  | ok read =>
    rw [hn] at h
    cases h
    obtain ⟨ds, hcs, hds, hlen, hvalue⟩ := number_inv hwidth hn
    exact ⟨ds, hcs, hds, hlen, by rw [hvalue]⟩

theorem yearNumber_append {sign ds rest : List Char} (hds : isNumeral ds = true)
    (hsign : sign = [] ∧ ds.length ≤ 4 ∨ sign = ['+'] ∨ sign = ['-'])
    (hrest : ∀ c, rest.head? = some c → c.isDigit = false) :
    yearNumber (sign ++ (ds ++ rest)) = .ok (if sign = ['-'] then -(Nat.ofDigitChars 10 ds 0 : Int)
      else Nat.ofDigitChars 10 ds 0, rest) := by
  have hsigned (f : Nat → Int) :
      ((number (ds ++ rest).length (ds ++ rest)).map fun (n, rest) => (f n, rest)) =
        .ok (f (Nat.ofDigitChars 10 ds 0), rest) := by
    rw [number_append hds (by simp) hrest]
    rfl
  rcases hsign with ⟨rfl, hlen⟩ | rfl | rfl
  · have hfour := number_append hds hlen hrest
    obtain ⟨c, cs, hcs, hc⟩ := exists_digit_append hds rest
    rw [hcs] at hfour
    rw [List.nil_append, hcs]
    unfold yearNumber
    split
    · next heq =>
      cases heq
      exact absurd hc (by decide)
    · next heq =>
      cases heq
      exact absurd hc (by decide)
    · rw [hfour]
      rfl
  · exact hsigned fun n => n
  · exact hsigned fun n => -(n : Int)

theorem yearNumber_inv {year : Int} {cs rest : List Char} (h : yearNumber cs = .ok (year, rest)) :
    ∃ sign ds, cs = sign ++ (ds ++ rest) ∧ isNumeral ds = true ∧
      (sign = [] ∧ ds.length ≤ 4 ∨ sign = ['+'] ∨ sign = ['-']) ∧
      (if sign = ['-'] then -(Nat.ofDigitChars 10 ds 0 : Int) else Nat.ofDigitChars 10 ds 0) = year := by
  unfold yearNumber at h
  split at h
  · obtain ⟨ds, rfl, hds, -, hvalue⟩ :=
      signed_inv (f := fun n => -(n : Int)) List.length_pos_of_ne_nil h
    exact ⟨['-'], ds, rfl, hds, .inr (.inr rfl), hvalue⟩
  · obtain ⟨ds, rfl, hds, -, hvalue⟩ := signed_inv List.length_pos_of_ne_nil h
    exact ⟨['+'], ds, rfl, hds, .inr (.inl rfl), hvalue⟩
  · obtain ⟨ds, rfl, hds, hlen, hvalue⟩ := signed_inv (fun _ => by decide) h
    exact ⟨[], ds, rfl, hds, .inl ⟨rfl, hlen⟩, hvalue⟩

end Numbers

-- The three numbers with the slashes between them, before the calendar is asked.
def Fields (cs : List Char) (date : PublicationDate) : Prop :=
  ∃ afterYear afterMonth, yearNumber (trimStart cs) = .ok (date.year, '/' :: afterYear) ∧
    number 2 (trimStart afterYear) = .ok (date.month, '/' :: afterMonth) ∧
    number 2 (trimStart afterMonth) = .ok (date.day, [])

section Reading

theorem Fields.unique {cs : List Char} {d e : PublicationDate} (hd : Fields cs d) (he : Fields cs e) :
    d = e := by
  obtain ⟨afterYear, afterMonth, hyear, hmonth, hday⟩ := hd
  obtain ⟨afterYear', afterMonth', hyear', hmonth', hday'⟩ := he
  obtain ⟨dy, dm, dd⟩ := d
  obtain ⟨ey, em, ed⟩ := e
  rw [hyear] at hyear'
  cases hyear'
  rw [hmonth] at hmonth'
  cases hmonth'
  rw [hday] at hday'
  cases hday'
  rfl

theorem checkYear_ok {year : Int} (hfirst : firstYear ≤ year) (hlast : year ≤ lastYear) :
    checkYear year = .ok () := by
  rw [checkYear, if_pos]
  unfold firstYear at hfirst
  unfold lastYear at hlast
  omega

theorem slash_ok_iff {cs rest : List Char} : slash cs = .ok rest ↔ cs = '/' :: rest := by
  cases cs with
  | nil => simp [slash]
  | cons c cs =>
    rw [slash]
    split
    · next hc => simp [hc]
    · next hc => simp [hc]

theorem fields_of_readFields {cs : List Char} {date : PublicationDate} (h : readFields cs = .ok date) :
    Fields cs date ∧ date.Real ∧ date.InReach := by
  simp only [readFields, bind, Except.bind, throw, throwThe, MonadExceptOf.throw, pure,
    Except.pure] at h
  split at h
  · cases h
  next year hyear =>
  split at h
  · cases h
  split at h
  · cases h
  next afterYear hslash =>
  split at h
  · cases h
  next month hmonth =>
  split at h
  · cases h
  split at h
  · cases h
  next afterMonth hslash' =>
  split at h
  · cases h
  next day hday =>
  split at h
  · cases h
  split at h
  · cases h
  next hrest =>
  split at h
  · next hdate =>
    cases h
    have hrest : day.2 = [] := by simpa using hrest
    have hyears : year.2 = '/' :: afterYear := slash_ok_iff.mp hslash
    have hmonths : month.2 = '/' :: afterMonth := slash_ok_iff.mp hslash'
    exact ⟨⟨afterYear, afterMonth, hyears ▸ hyear, hmonths ▸ hmonth, hrest ▸ hday⟩, hdate⟩
  · cases h

-- The checks on the way refuse nothing that the calendar has.
theorem readFields_of_fields {cs : List Char} {date : PublicationDate} (h : Fields cs date)
    (hreal : date.Real) (hreach : date.InReach) : readFields cs = .ok date := by
  obtain ⟨afterYear, afterMonth, hyear, hmonth, hday⟩ := h
  obtain ⟨hm, hm', hd, hd'⟩ := hreal.bounds
  have hmonths : (date.month < 1 || 12 < date.month) = false := by simp; omega
  have hdays : (date.day < 1 || 31 < date.day) = false := by simp; omega
  have hdate : date.Real ∧ firstYear ≤ date.year ∧ date.year ≤ lastYear := ⟨hreal, hreach⟩
  simp only [readFields, bind, Except.bind, hyear, checkYear_ok hreach.1 hreach.2, slash, if_true,
    hmonth, hmonths, Bool.false_eq_true, if_false, hday, hdays, List.isEmpty_nil, Bool.not_true]
  exact if_pos hdate

theorem readFields_ok_iff {cs : List Char} {date : PublicationDate} :
    readFields cs = .ok date ↔ Fields cs date ∧ date.Real ∧ date.InReach :=
  ⟨fields_of_readFields, fun h => readFields_of_fields h.1 h.2.1 h.2.2⟩

namespace Spelling.Grammatical

variable {s : Spelling}

theorem trimmed_core (h : s.Grammatical) : Trimmed s.core := by
  constructor
  · rcases h.sign with ⟨hsign, -⟩ | hsign | hsign
    · rw [Spelling.core, hsign, List.nil_append]
      exact head_numeral_append (h.numerals s.year (by simp)) _
    · rw [Spelling.core, hsign]
      rintro _ ⟨rfl⟩
      decide
    · rw [Spelling.core, hsign]
      rintro _ ⟨rfl⟩
      decide
  · intro c hc
    have hday := isNumeral_iff.mp (h.numerals s.day (by simp))
    have hcore : s.core = (s.sign ++ s.year ++ '/' :: s.beforeMonth ++ s.month ++ '/' :: s.beforeDay) ++
        s.day := by simp [Spelling.core]
    rw [hcore, List.getLast?_append_of_ne_nil _ hday.1] at hc
    exact isBlank_of_isDigit (hday.2 c (List.mem_of_getLast? hc))

theorem trim_text (h : s.Grammatical) : trim s.text = s.core := by
  have hcore := h.trimmed_core
  have hne : s.core ≠ [] := by simp [Spelling.core]
  have hhead : ∀ c, (s.core ++ s.back).head? = some c → isBlank c = false := by
    rw [List.head?_append_of_ne_nil _ hne]
    exact hcore.head
  rw [trim, Spelling.text, trimStart_blanks_append (h.blanks s.front (by simp)) hhead,
    trimEnd_append_blanks hcore.last (h.blanks s.back (by simp))]

theorem fields (h : s.Grammatical) : Fields (trim s.text) s.date := by
  refine ⟨s.beforeMonth ++ (s.month ++ '/' :: (s.beforeDay ++ s.day)), s.beforeDay ++ s.day,
    ?year, ?month, ?day⟩
  case year =>
    rw [h.trim_text, trimStart_eq_self h.trimmed_core.head]
    exact yearNumber_append (h.numerals s.year (by simp)) h.sign (by simp)
  case month =>
    have hmonth := h.numerals s.month (by simp)
    rw [trimStart_blanks_append (h.blanks s.beforeMonth (by simp)) (head_numeral_append hmonth _)]
    exact number_append hmonth h.month (by simp)
  case day =>
    have hday := h.numerals s.day (by simp)
    have hread : number 2 (s.day ++ []) = .ok (s.date.day, []) := number_append hday h.day (by simp)
    have hstart := head_numeral_append hday []
    rw [List.append_nil] at hread hstart
    rw [trimStart_blanks_append (h.blanks s.beforeDay (by simp)) hstart]
    exact hread

end Spelling.Grammatical

theorem exists_spelling {cs : List Char} {date : PublicationDate} (h : Fields (trim cs) date) :
    ∃ s : Spelling, s.Grammatical ∧ s.text = cs ∧ s.date = date := by
  obtain ⟨afterYear, afterMonth, hyear, hmonth, hday⟩ := h
  rw [trimStart_eq_self (trimmed_trim cs).head] at hyear
  obtain ⟨sign, ys, hcs, hys, hsign, hy⟩ := yearNumber_inv hyear
  obtain ⟨ms, hafterYear, hms, hmlen, hm⟩ := number_inv (fun _ => by decide) hmonth
  obtain ⟨ds, hafterMonth, hds, hdlen, hd⟩ := number_inv (fun _ => by decide) hday
  obtain ⟨back, hback, hblank⟩ := exists_blanks_behind_trimEnd (trimStart cs)
  have hcut (cs : List Char) : cs.takeWhile isBlank ++ trimStart cs = cs :=
    List.takeWhile_append_dropWhile
  have hblanks (cs : List Char) : ∀ c ∈ cs.takeWhile isBlank, isBlank c = true :=
    fun c hc => List.mem_takeWhile_imp hc
  let s : Spelling := {
    front := cs.takeWhile isBlank
    sign := sign
    year := ys
    beforeMonth := afterYear.takeWhile isBlank
    month := ms
    beforeDay := afterMonth.takeWhile isBlank
    day := ds
    back := back }
  have hcore : s.core = trim cs := by
    rw [List.append_nil] at hafterMonth
    rw [hcs, ← hcut afterYear, hafterYear, ← hcut afterMonth, hafterMonth]
    rfl
  refine ⟨s, ⟨?blanks, hsign, ?numerals, hmlen, hdlen⟩, ?text, ?date⟩
  case blanks =>
    simp only [List.forall_mem_cons]
    exact ⟨hblanks cs, hblanks afterYear, hblanks afterMonth, hblank, by simp⟩
  case numerals =>
    simp only [List.forall_mem_cons]
    exact ⟨hys, hms, hds, by simp⟩
  case text =>
    rw [Spelling.text, hcore, trim, ← hback]
    exact hcut cs
  case date => simp only [s, Spelling.date, hy, hm, hd]

theorem names_iff {text : String} {date : PublicationDate} :
    Names text date ↔ Fields (trim text.toList) date := by
  constructor
  · rintro ⟨s, hs, htext, rfl⟩
    rw [← htext]
    exact hs.fields
  · exact exists_spelling

theorem Names.unique {text : String} {d e : PublicationDate} (hd : Names text d) (he : Names text e) :
    d = e :=
  (names_iff.mp hd).unique (names_iff.mp he)

-- A text is read just where it spells a day that the calendar has.
theorem read_ok_iff {text : String} {date : PublicationDate} :
    read text = .ok date ↔ Names text date ∧ date.Real ∧ date.InReach := by
  rw [read, readFields_ok_iff, names_iff]

theorem normalize_ok_iff {text d : String} :
    normalize text = .ok d ↔ ∃ date, read text = .ok date ∧ d = date.text := by
  rw [normalize]
  cases read text with
  | error e => simp
  | ok date => simp [eq_comm]

end Reading

section FullForm

theorem length_padded {width n : Nat} (hwidth : 0 < width) (h : n < 10 ^ width) :
    (padded width n).length = width := by
  have hlen := (Nat.length_toDigits_le_iff (by decide) hwidth).mpr h
  simp only [padded, List.length_append, List.length_replicate]
  omega

theorem isNumeral_padded (width n : Nat) : isNumeral (padded width n) = true := by
  refine isNumeral_iff.mpr ⟨by simp [padded, Nat.toDigits_ne_nil], fun c hc => ?_⟩
  rcases List.mem_append.mp hc with hzero | hdigit
  · rw [List.eq_of_mem_replicate hzero]
    decide
  · exact isDigit_of_mem_toDigits hdigit

theorem ofDigitChars_padded (width n : Nat) : Nat.ofDigitChars 10 (padded width n) 0 = n := by
  rw [padded, Nat.ofDigitChars_append, Nat.ofDigitChars_replicate_zero, Nat.mul_zero,
    Nat.ofDigitChars_ten_toDigits]

def fullSign (year : Int) : List Char := if year < 0 then ['-'] else if 9999 < year then ['+'] else []

theorem fullSign_cases (year : Int) : year < 0 ∧ fullSign year = ['-'] ∨
    9999 < year ∧ fullSign year = ['+'] ∨ (0 ≤ year ∧ year ≤ 9999) ∧ fullSign year = [] := by
  unfold fullSign
  split_ifs <;> simp <;> omega

-- The full form of a date in its parts.
def full (date : PublicationDate) : Spelling where
  front := []
  sign := fullSign date.year
  year := padded 4 date.year.natAbs
  beforeMonth := []
  month := padded 2 date.month
  beforeDay := []
  day := padded 2 date.day
  back := []

theorem yearText_eq (year : Int) : yearText year = fullSign year ++ padded 4 year.natAbs := by
  unfold yearText fullSign
  split
  · rfl
  · split <;> rfl

theorem text_full (date : PublicationDate) : date.full.text = date.text.toList := by
  simp [Spelling.text, Spelling.core, full, text, yearText_eq]

theorem date_full (date : PublicationDate) : date.full.date = date := by
  have hyear : (if fullSign date.year = ['-'] then -(date.year.natAbs : Int) else date.year.natAbs) =
      date.year := by
    rcases fullSign_cases date.year with ⟨hyear, hsign⟩ | ⟨hyear, hsign⟩ | ⟨hyear, hsign⟩
    · rw [hsign, if_pos rfl]
      omega
    · rw [hsign, if_neg (by decide)]
      omega
    · rw [hsign, if_neg (by decide)]
      omega
  simp only [Spelling.date, full, ofDigitChars_padded, hyear]

theorem grammatical_full {date : PublicationDate} (h : date.Real) : date.full.Grammatical := by
  obtain ⟨-, hmonth, -, hday⟩ := h.bounds
  constructor
  case blanks => simp [full]
  case sign =>
    rcases fullSign_cases date.year with ⟨-, hsign⟩ | ⟨-, hsign⟩ | ⟨hyear, hsign⟩
    · exact .inr (.inr hsign)
    · exact .inr (.inl hsign)
    · exact .inl ⟨hsign, (length_padded (by decide) (by omega)).le⟩
  case numerals => simp [full, isNumeral_padded]
  case month => exact (length_padded (by decide) (by omega)).le
  case day => exact (length_padded (by decide) (by omega)).le

theorem names_text {date : PublicationDate} (h : date.Real) : Names date.text date :=
  ⟨date.full, grammatical_full h, text_full date, date_full date⟩

theorem normalize_text {date : PublicationDate} (hreal : date.Real) (hreach : date.InReach) :
    normalize date.text = .ok date.text :=
  normalize_ok_iff.mpr ⟨date, read_ok_iff.mpr ⟨names_text hreal, hreal, hreach⟩, rfl⟩

end FullForm

section Lines

theorem isDateShape_of_read {cs : List Char} {value : String}
    (h : Line.read cs = .field .pubdate value) : Line.isDateShape value.toList = true := by
  unfold Line.read at h
  split at h
  · cases h
  split at h
  · next key v hfield =>
    cases h
    exact absurd rfl (Line.field?_ne_pubdate hfield)
  split at h
  · next v hdate =>
    cases h
    unfold Line.pubdate? at hdate
    repeat' split at hdate
    all_goals cases hdate
    simpa using ‹Line.isDateShape v = true›
  · repeat' split at h
    all_goals cases h

theorem isDateShape_of_length {ys ms ds : List Char} (hys : ys.length = 4) (hms : ms.length = 2)
    (hds : ds.length = 2) (hdigits : ∀ cs ∈ [ys, ms, ds], isNumeral cs = true) :
    Line.isDateShape (ys ++ '/' :: (ms ++ '/' :: ds)) = true := by
  simp only [List.forall_mem_cons, isNumeral_iff] at hdigits
  obtain ⟨y, y', y'', y''', rfl⟩ := List.length_eq_four.mp hys
  obtain ⟨m, m', rfl⟩ := List.length_eq_two.mp hms
  obtain ⟨d, d', rfl⟩ := List.length_eq_two.mp hds
  obtain ⟨⟨-, hyear⟩, ⟨-, hmonth⟩, ⟨-, hday⟩, -⟩ := hdigits
  refine List.all_eq_true.mpr fun c hc => isDecimalDigit_of_isDigit ?_
  simp only [List.mem_cons, List.not_mem_nil, or_false] at hc hyear hmonth hday
  rcases hc with rfl | rfl | rfl | rfl | rfl | rfl | rfl | rfl <;> simp [*]

theorem isDateShape_cons_eq_false {c : Char} {cs : List Char} (hc : isDecimalDigit c = false) :
    Line.isDateShape (c :: cs) = false := by
  unfold Line.isDateShape
  split
  · next heq =>
    cases heq
    rw [List.all_cons, hc, Bool.false_and]
  · rfl

-- The sign of a year is none of the digits that a document has for its date.
theorem isDateShape_text_iff {date : PublicationDate} (h : date.Real) :
    Line.isDateShape date.text.toList = true ↔ 0 ≤ date.year ∧ date.year ≤ 9999 := by
  obtain ⟨-, hmonth, -, hday⟩ := h.bounds
  have htext : date.text.toList = fullSign date.year ++
      (padded 4 date.year.natAbs ++ '/' :: (padded 2 date.month ++ '/' :: padded 2 date.day)) := by
    rw [← text_full]
    simp [Spelling.text, Spelling.core, full]
  rw [htext]
  rcases fullSign_cases date.year with ⟨hyear, hsign⟩ | ⟨hyear, hsign⟩ | ⟨hyear, hsign⟩
  · rw [hsign, List.cons_append, isDateShape_cons_eq_false (by decide)]
    exact iff_of_false Bool.false_ne_true (by omega)
  · rw [hsign, List.cons_append, isDateShape_cons_eq_false (by decide)]
    exact iff_of_false Bool.false_ne_true (by omega)
  · rw [hsign, List.nil_append]
    refine iff_of_true (isDateShape_of_length ?_ ?_ ?_ (by simp [isNumeral_padded])) hyear
    · exact length_padded (by decide) (by omega)
    · exact length_padded (by decide) (by omega)
    · exact length_padded (by decide) (by omega)

theorem read_pubdateLine_iff {date : PublicationDate} (h : date.Real) :
    Line.read ("pubdate: " ++ date.text).toList = .field .pubdate date.text ↔
      0 ≤ date.year ∧ date.year ≤ 9999 := by
  rw [← isDateShape_text_iff h]
  refine ⟨isDateShape_of_read, fun hshape => ?_⟩
  have hline := Heading.read_fieldLine (h := .field .pubdate date.text) (Field.takes_pubdate hshape)
  have hentry : Document.fieldLine (Heading.field .pubdate date.text).entry =
      "pubdate: " ++ date.text := by
    simp [Document.fieldLine, Heading.entry, Field.key]
  rwa [hentry] at hline

end Lines

-- A text without a sign before the year, which is the form that a document has.
def Unsigned (text : String) : Prop :=
  ∃ s : Spelling, s.Grammatical ∧ s.text = text.toList ∧ s.sign = []

theorem year_of_unsigned {text : String} {date : PublicationDate} (h : Names text date)
    (hsign : Unsigned text) : 0 ≤ date.year ∧ date.year ≤ 9999 := by
  obtain ⟨s, hs, htext, hnone⟩ := hsign
  obtain rfl : s.date = date := Names.unique ⟨s, hs, htext, rfl⟩ h
  have hlen : s.year.length ≤ 4 := by
    rcases hs.sign with ⟨-, hlen⟩ | hplus | hminus
    · exact hlen
    · rw [hplus] at hnone
      cases hnone
    · rw [hminus] at hnone
      cases hnone
  have hvalue : Nat.ofDigitChars 10 s.year 0 < 10 ^ 4 :=
    (ofDigitChars_lt (isNumeral_iff.mp (hs.numerals s.year (by simp))).2).trans_le
      (Nat.pow_le_pow_right (by decide) hlen)
  have hyear : s.date.year = Nat.ofDigitChars 10 s.year 0 := if_neg (by simp [hnone])
  omega

-- What can be done with the full form that a text is given.
structure Usable (text d : String) (date : PublicationDate) : Prop where
  full : d = date.text
  names : ∀ other, Names text other ↔ other = date
  calendar : ∃ day : Std.Time.PlainDate, ofDay day = date
  again : Names d date ∧ normalize d = .ok d
  same : ∀ text' d', normalize text' = .ok d' → Names text' date → d' = d
  line : Unsigned text → Line.read ("pubdate: " ++ d).toList = .field .pubdate d
  line_iff : Line.read ("pubdate: " ++ d).toList = .field .pubdate d ↔ 0 ≤ date.year ∧ date.year ≤ 9999

-- An accepted text spells one day of the calendar, and its full form is a date for a document.
theorem normalize_usable {text d : String} (h : normalize text = .ok d) :
    ∃ date, Usable text d date := by
  obtain ⟨date, hread, rfl⟩ := normalize_ok_iff.mp h
  obtain ⟨hnames, hreal, hreach⟩ := read_ok_iff.mp hread
  refine ⟨date, ?_⟩
  constructor
  case full => rfl
  case names => exact fun other => ⟨fun hother => hother.unique hnames, fun heq => heq ▸ hnames⟩
  case calendar => exact real_iff.mp hreal
  case again => exact ⟨names_text hreal, normalize_text hreal hreach⟩
  case same =>
    intro text' d' hnormal hnames'
    obtain ⟨date', hread', rfl⟩ := normalize_ok_iff.mp hnormal
    rw [(read_ok_iff.mp hread').1.unique hnames']
  case line => exact fun hsign => (read_pubdateLine_iff hreal).mpr (year_of_unsigned hnames hsign)
  case line_iff => exact read_pubdateLine_iff hreal

-- The last day of a month that a leap year makes longer, with a blank before each number.
theorem normalize_usable_leapDay :
    normalize " 2024/ 2/\t29" = .ok "2024/02/29" ∧
      (∀ other, Names " 2024/ 2/\t29" other ↔ other = ⟨2024, 2, 29⟩) ∧
      normalize "2024/02/29" = .ok "2024/02/29" ∧
      Line.read "pubdate: 2024/02/29".toList = .field .pubdate "2024/02/29" := by
  have h : normalize " 2024/ 2/\t29" = .ok "2024/02/29" := by decide +kernel
  obtain ⟨date, husable⟩ := normalize_usable h
  let s : Spelling := ⟨[' '], [], "2024".toList, [' '], ['2'], ['\t'], "29".toList, []⟩
  have hs : s.Grammatical := ⟨by decide, by decide, by decide, by decide, by decide⟩
  obtain rfl : s.date = date := (husable.names s.date).mp ⟨s, hs, by decide, rfl⟩
  have hline := husable.line ⟨s, hs, by decide, rfl⟩
  exact ⟨h, husable.names, husable.again.2, hline⟩

end Cruciverb.PublicationDate
