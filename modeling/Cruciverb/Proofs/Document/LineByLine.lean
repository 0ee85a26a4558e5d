import Cruciverb.Proofs.Document.Recognition
import Cruciverb.Proofs.Grid.Cells
import Mathlib.Data.List.Basic

namespace Cruciverb

open Cruciverb.Text

namespace Line

-- What a line says of one part of the record.
def given? (f : Field) : Line → Option String
  | field g value => if g = f then some value else none
  | _ => none

def dimensions? : Line → Option Dimensions
  | size d => some d
  | _ => none

def direction? : Line → Option Direction
  | grouping d => some d
  | _ => none

def clueLine? : Line → Option ClueLine
  | clue line => some line
  | _ => none

def saysSomething (cs : List Char) : Bool := read cs ≠ .ignored

end Line

namespace Puzzle

-- A clue as it is read from its line.
def clueOf? (cs : List Char) : Option Clue :=
  (Line.read cs).clueLine?.map fun line => Clue.ofLine line (String.ofList cs)

section Lines

variable (ls : List (List Char))

def lastSaid? {α : Type} (tells? : Line → Option α) : Option α :=
  (ls.filterMap fun cs => tells? (Line.read cs)).getLast?

-- The direction that is named nearest before a line.
def directionAt? (i : Nat) : Option Direction := lastSaid? (ls.take i) Line.direction?

-- A clue with no direction named before it.
def isStray (i : Nat) : Bool :=
  (ls[i]?.bind fun cs => (Line.read cs).clueLine?).isSome && (directionAt? ls i).isNone

-- The index of the first stray clue; where there is none, the number of lines.
def halt : Nat := (List.range ls.length).findIdx (isStray ls)

-- The lines that are read, and what is reported of the one that ends the reading.
def heard : List (List Char) := ls.take (halt ls)

def ending : List Error := if halt ls < ls.length then [.noGrouping] else []

def unparseable : List Error := ls.filterMap fun cs =>
  if Line.read cs = .unrecognised then some (.unparseableLine (String.ofList cs)) else none

def cluesUnder (d : Direction) : List Clue := ls.zipIdx.filterMap fun (cs, i) =>
  if directionAt? ls i = some d then clueOf? cs else none

-- The record of some lines, read from the first to the last, and of the error at their end.
structure ReadFrom (last : List Error) (p : Puzzle) : Prop where
  errors : p.errors = unparseable ls ++ last
  clues : ∀ d, p.clues.get d = cluesUnder ls d
  field : ∀ f, p.field? f = (lastSaid? ls (Line.given? f)).or (({} : Puzzle).field? f)
  dimensions : p.dimensions = (lastSaid? ls Line.dimensions?).getD ({} : Puzzle).dimensions
  unchecked : p.side = none ∧ p.grid = none ∧ p.starts = .empty ∧ p.answers = none

end Lines

variable {ls rest : List (List Char)} {cs : List Char} {p q : Puzzle} {last : List Error}

theorem lastSaid?_concat {α : Type} (tells? : Line → Option α) :
    lastSaid? (ls ++ [cs]) tells? = (tells? (Line.read cs)).or (lastSaid? ls tells?) := by
  rw [lastSaid?, List.filterMap_append, List.getLast?_append, lastSaid?]
  cases htells : tells? (Line.read cs) with
  | none => simp [htells]
  | some a => simp [htells]

theorem unparseable_concat : unparseable (ls ++ [cs]) = unparseable ls ++
    if Line.read cs = .unrecognised then [.unparseableLine (String.ofList cs)] else [] := by
  rw [unparseable, List.filterMap_append, ← unparseable]
  split
  · next h => simp [h]
  · next h => simp [h]

theorem directionAt?_append {i : Nat} (h : i ≤ ls.length) :
    directionAt? (ls ++ rest) i = directionAt? ls i := by
  rw [directionAt?, List.take_append_of_le_length h, directionAt?]

theorem directionAt?_length : directionAt? ls ls.length = lastSaid? ls Line.direction? := by
  rw [directionAt?, List.take_length]

-- A line more says nothing of the clues before it.
theorem cluesUnder_concat (d : Direction) : cluesUnder (ls ++ [cs]) d = cluesUnder ls d ++
    if lastSaid? ls Line.direction? = some d then (clueOf? cs).toList else [] := by
  have hbefore : (ls.zipIdx.filterMap fun (l, i) =>
      if directionAt? (ls ++ [cs]) i = some d then clueOf? l else none) = cluesUnder ls d := by
    apply List.filterMap_congr
    rintro ⟨l, i⟩ hl
    have hi : i < ls.length := by simpa using (List.mem_zipIdx hl).2.1
    simp only [directionAt?_append (Nat.le_of_lt hi)]
  rw [cluesUnder, List.zipIdx_append, List.filterMap_append, hbefore, List.zipIdx_singleton,
    Nat.zero_add, List.filterMap_cons]
  simp only [directionAt?_append (Nat.le_refl ls.length), directionAt?_length]
  by_cases hd : lastSaid? ls Line.direction? = some d
  · cases clueOf? cs <;> simp [hd]
  · simp [hd]

section Halt

theorem isStray_append {i : Nat} (h : i < ls.length) : isStray (ls ++ rest) i = isStray ls i := by
  rw [isStray, isStray, directionAt?_append (Nat.le_of_lt h), List.getElem?_append_left h]

theorem isStray_length : isStray (ls ++ cs :: rest) ls.length =
    ((Line.read cs).clueLine?.isSome && (lastSaid? ls Line.direction?).isNone) := by
  rw [isStray, directionAt?_append (Nat.le_refl _), directionAt?, List.take_length,
    List.getElem?_append_right (Nat.le_refl _), Nat.sub_self]
  rfl

theorem halt_eq_length_iff : halt ls = ls.length ↔ ∀ i < ls.length, isStray ls i = false := by
  rw [halt]
  conv => lhs; rhs; rw [← List.length_range (n := ls.length)]
  rw [List.findIdx_eq_length]
  simp

theorem halt_eq_iff {i : Nat} (hi : i < ls.length) :
    halt ls = i ↔ isStray ls i = true ∧ ∀ j < i, isStray ls j = false := by
  rw [halt, List.findIdx_eq (by simpa using hi)]
  simp

theorem halt_concat (hls : halt ls = ls.length) (hcs : isStray (ls ++ [cs]) ls.length = false) :
    halt (ls ++ [cs]) = (ls ++ [cs]).length := by
  rw [halt_eq_length_iff] at hls ⊢
  intro i hi
  rw [List.length_append, List.length_singleton] at hi
  by_cases heq : i = ls.length
  · rw [heq, hcs]
  · rw [isStray_append (by omega), hls i (by omega)]

theorem halt_of_stray (hls : halt ls = ls.length) (hcs : isStray (ls ++ cs :: rest) ls.length = true) :
    halt (ls ++ cs :: rest) = ls.length := by
  rw [halt_eq_length_iff] at hls
  rw [halt_eq_iff (by simp)]
  exact ⟨hcs, fun i hi => by rw [isStray_append hi, hls i hi]⟩

theorem isStray_take (i : Nat) : isStray (ls.take (i + 1)) i = isStray ls i := by
  by_cases hi : i < ls.length
  · conv => rhs; rw [← List.take_append_drop (i + 1) ls]
    rw [isStray_append (by rw [List.length_take]; omega)]
  · rw [List.take_of_length_le (by omega)]

-- What stands behind the line that ends a reading has no part in where it ends.
theorem heard_eq_of_take {other : List (List Char)}
    (h : other.take (halt ls + 1) = ls.take (halt ls + 1)) :
    heard other = heard ls ∧ ending other = ending ls := by
  have hlength := congrArg List.length h
  rw [List.length_take, List.length_take] at hlength
  have hhalt : halt other = halt ls := by
    by_cases hlt : halt ls < ls.length
    · have hsame (i : Nat) (hi : i ≤ halt ls) : isStray other i = isStray ls i := by
        have htake := congrArg (List.take (i + 1)) h
        rw [List.take_take, List.take_take, Nat.min_eq_left (by omega)] at htake
        rw [← isStray_take, htake, isStray_take]
      obtain ⟨hstray, hbefore⟩ := (halt_eq_iff hlt).mp rfl
      rw [halt_eq_iff (by omega), hsame _ (Nat.le_refl _)]
      exact ⟨hstray, fun i hi => by rw [hsame i (Nat.le_of_lt hi), hbefore i hi]⟩
    · rw [List.take_of_length_le (by omega), List.take_of_length_le (by omega)] at h
      rw [h]
  constructor
  · have htake := congrArg (List.take (halt ls)) h
    rw [List.take_take, List.take_take, Nat.min_eq_left (by omega)] at htake
    rw [heard, heard, hhalt, htake]
  · have hiff : halt ls < other.length ↔ halt ls < ls.length := by omega
    rw [ending, ending, hhalt]
    simp only [hiff]

end Halt

section Run

-- What the record has to gain when one line is read.
theorem ReadFrom.concat (h : ReadFrom ls [] p)
    (herrors : q.errors = p.errors ++
      if Line.read cs = .unrecognised then [.unparseableLine (String.ofList cs)] else [])
    (hclues : ∀ d, q.clues.get d = p.clues.get d ++
      if lastSaid? ls Line.direction? = some d then (clueOf? cs).toList else [])
    (hfield : ∀ f, q.field? f = ((Line.read cs).given? f).or (p.field? f))
    (hdimensions : q.dimensions = (Line.read cs).dimensions?.getD p.dimensions)
    (hunchecked : q.side = p.side ∧ q.grid = p.grid ∧ q.starts = p.starts ∧ q.answers = p.answers) :
    ReadFrom (ls ++ [cs]) [] q := by
  refine ⟨?_, fun d => ?_, fun f => ?_, ?_, ?_⟩
  · rw [herrors, h.errors, unparseable_concat, List.append_nil, List.append_nil]
  · rw [hclues, h.clues, cluesUnder_concat]
  · rw [hfield, h.field, lastSaid?_concat, Option.or_assoc]
  · rw [hdimensions, h.dimensions, lastSaid?_concat]
    cases (Line.read cs).dimensions? <;> rfl
  · obtain ⟨hside, hgrid, hstarts, hanswers⟩ := hunchecked
    rw [hside, hgrid, hstarts, hanswers]
    exact h.unchecked

-- A line above the clues leaves the clues and the reports as they are.
theorem ReadFrom.concat_heading (h : ReadFrom ls [] p) {g : Heading} (hread : Line.read cs = g.line) :
    ReadFrom (ls ++ [cs]) [] (g.set p) := by
  have hno : Line.read cs ≠ .unrecognised ∧ (Line.read cs).clueLine? = none := by
    rw [hread]
    cases g <;> exact ⟨nofun, rfl⟩
  have hvalue (f : Field) : (Line.read cs).given? f = g.value? f := by
    rw [hread]
    cases g <;> rfl
  refine h.concat ?_ (fun d => ?_) (fun f => ?_) ?_ ?_
  · rw [errors_set, if_neg hno.1, List.append_nil]
  · rw [clues_set, clueOf?, hno.2]
    simp
  · rw [field?_set, hvalue]
  · rw [hread]
    cases g with
    | field f value => cases f <;> rfl
    | size d => rfl
  · cases g with
    | field f value => cases f <;> exact ⟨rfl, rfl, rfl, rfl⟩
    | size d => exact ⟨rfl, rfl, rfl, rfl⟩

-- One line more, of any kind, that does not end the reading.
theorem ReadFrom.step (h : ReadFrom ls [] p) (hcs : isStray (ls ++ [cs]) ls.length = false) :
    ∃ q, ReadFrom (ls ++ [cs]) [] q ∧ ∀ rest, readLines (lastSaid? ls Line.direction?) (cs :: rest) p =
      readLines (lastSaid? (ls ++ [cs]) Line.direction?) rest q := by
  rw [isStray_length] at hcs
  simp only [readLines, lastSaid?_concat]
  cases hread : Line.read cs with
  | ignored =>
    refine ⟨p, h.concat ?_ ?_ ?_ ?_ ⟨rfl, rfl, rfl, rfl⟩, fun rest => rfl⟩
    all_goals simp [hread, clueOf?, Line.clueLine?, Line.given?, Line.dimensions?]
  | field f value => exact ⟨_, h.concat_heading (g := .field f value) hread, fun rest => rfl⟩
  | size d => exact ⟨_, h.concat_heading (g := .size d) hread, fun rest => rfl⟩
  | grouping d =>
    refine ⟨p, h.concat ?_ ?_ ?_ ?_ ⟨rfl, rfl, rfl, rfl⟩, fun rest => rfl⟩
    all_goals simp [hread, clueOf?, Line.clueLine?, Line.given?, Line.dimensions?]
  | clue line =>
    obtain ⟨d, hd⟩ : ∃ d, lastSaid? ls Line.direction? = some d := by
      rw [hread] at hcs
      simpa [Line.clueLine?, Option.isSome_iff_exists] using hcs
    refine ⟨p.addClue d (Clue.ofLine line (String.ofList cs)),
      h.concat ?_ (fun e => ?_) (fun f => ?_) ?_ ⟨rfl, rfl, rfl, rfl⟩, fun rest => by rw [hd]; rfl⟩
    · simp [hread, addClue]
    · rw [addClue, Both.get_modify, hd, clueOf?, hread]
      by_cases hde : d = e <;> simp [hde, Line.clueLine?]
    · rw [hread]
      cases f <;> rfl
    · rw [hread]
      rfl
  | unrecognised =>
    refine ⟨{ p with errors := p.errors ++ [.unparseableLine (String.ofList cs)] },
      h.concat ?_ ?_ (fun f => ?_) ?_ ⟨rfl, rfl, rfl, rfl⟩, fun rest => rfl⟩
    · simp [hread]
    · simp [clueOf?, hread, Line.clueLine?]
    · rw [hread]
      cases f <;> rfl
    · rw [hread]
      rfl

-- Only a stray clue ends the reading before the last line.
theorem ReadFrom.run (h : ReadFrom ls [] p) (hls : halt ls = ls.length) (rest : List (List Char)) :
    ReadFrom (heard (ls ++ rest)) (ending (ls ++ rest))
      (readLines (lastSaid? ls Line.direction?) rest p) := by
  induction rest generalizing ls p with
  | nil =>
    rw [List.append_nil, heard, ending, hls, List.take_length, if_neg (Nat.lt_irrefl _)]
    exact h
  | cons cs rest ih =>
    cases hcs : isStray (ls ++ [cs]) ls.length with
    | false =>
      obtain ⟨q, hq, hrun⟩ := h.step hcs
      rw [hrun]
      simpa using ih hq (halt_concat hls hcs)
    | true =>
      rw [isStray_length, Bool.and_eq_true, Option.isNone_iff_eq_none] at hcs
      obtain ⟨hclue, hnone⟩ := hcs
      have hhalt : halt (ls ++ cs :: rest) = ls.length :=
        halt_of_stray hls (by rw [isStray_length, hclue, hnone]; rfl)
      rw [heard, ending, hhalt, List.take_left, if_pos (by simp), hnone, readLines]
      cases hread : Line.read cs with
      | clue line =>
        exact ⟨by rw [h.errors, List.append_nil], h.clues, fun f => by rw [← h.field]; cases f <;> rfl,
          h.dimensions, h.unchecked⟩
      | ignored | field f value | size d | grouping d | unrecognised =>
        rw [hread] at hclue
        cases hclue

theorem readFrom_start (source : String) : ReadFrom [] [] { source } where
  errors := rfl
  clues d := by cases d <;> rfl
  field f := by cases f <;> rfl
  dimensions := rfl
  unchecked := ⟨rfl, rfl, rfl, rfl⟩

theorem readFrom_readLines (ls : List (List Char)) (source : String) :
    ReadFrom (heard ls) (ending ls) (readLines none ls { source }) :=
  (readFrom_start source).run rfl ls

end Run

theorem ReadFrom.of_source (h : ReadFrom ls last p) (source : String) :
    ReadFrom ls last { p with source } :=
  ⟨h.errors, h.clues, fun f => by rw [← h.field]; cases f <;> rfl, h.dimensions, h.unchecked⟩

-- Nothing of the record is left open but the text.
theorem ReadFrom.unique (h : ReadFrom ls last p) (h' : ReadFrom ls last q)
    (hsource : p.source = q.source) : p = q := by
  have hfield (f : Field) : p.field? f = q.field? f := (h.field f).trans (h'.field f).symm
  have hclues : p.clues = q.clues := Both.ext_get fun d => (h.clues d).trans (h'.clues d).symm
  obtain ⟨hside, hgrid, hstarts, hanswers⟩ := h.unchecked
  obtain ⟨hside', hgrid', hstarts', hanswers'⟩ := h'.unchecked
  cases p
  cases q
  rw [mk.injEq]
  exact ⟨Option.some.inj (hfield .version), hfield .name, Option.some.inj (hfield .author),
    Option.some.inj (hfield .editor), Option.some.inj (hfield .publisher),
    Option.some.inj (hfield .copyright), Option.some.inj (hfield .pubdate),
    h.dimensions.trans h'.dimensions.symm, hclues, h.errors.trans h'.errors.symm, hsource,
    hside.trans hside'.symm, hgrid.trans hgrid'.symm, hstarts.trans hstarts'.symm,
    hanswers.trans hanswers'.symm⟩

theorem readLines_filter (grouping : Option Direction) (ls : List (List Char)) (p : Puzzle) :
    readLines grouping (ls.filter Line.saysSomething) p = readLines grouping ls p := by
  induction ls generalizing grouping p with
  | nil => rfl
  | cons cs ls ih =>
    by_cases hread : Line.read cs = .ignored
    · rw [List.filter_cons_of_neg (by simp [Line.saysSomething, hread]), ih, readLines, hread]
    · rw [List.filter_cons_of_pos (by simp [Line.saysSomething, hread]), readLines, readLines]
      split
      all_goals simp only [ih]

-- The text itself is kept and looked at no more.
theorem readLines_congr {other : List (List Char)} (hheard : heard other = heard ls)
    (hending : ending other = ending ls) (source text : String) :
    readLines none other { source } = { readLines none ls { source := text } with source } := by
  have hother := readFrom_readLines other source
  rw [hheard, hending] at hother
  exact hother.unique ((readFrom_readLines ls text).of_source source) (source_readLines none other _)

-- Reading is what its lines say, so that nothing behind its end, and no line that says nothing, has a
-- part in it.
theorem read_readFrom (text : String) :
    let ls := cleanLines text.toList
    (read text).source = text ∧ ReadFrom (heard ls) (ending ls) (read text) ∧
    (∀ other : String, (cleanLines other.toList).take (halt ls + 1) = ls.take (halt ls + 1) →
      read other = { read text with source := other }) ∧
    ∀ other : String,
      (cleanLines other.toList).filter Line.saysSomething = ls.filter Line.saysSomething →
      read other = { read text with source := other } := by
  intro ls
  refine ⟨source_readLines none ls _, readFrom_readLines ls text, fun other hsame => ?_,
    fun other hsame => ?_⟩
  · obtain ⟨hheard, hending⟩ := heard_eq_of_take hsame
    exact readLines_congr hheard hending other text
  · rw [read, read, ← readLines_filter, hsame, ← readLines_filter none ls]
    exact readLines_congr rfl rfl other text

def strayText : String := "name: A\nname: B # two\nwhat\n- (1,1) 1. Pet (CAT)\nacross:\n- (1,1) 1. Pet (DOG)"

-- The same up to the clue that ends the reading, and the same but for lines that say nothing.
theorem read_readFrom_strayText :
    let cut := "name: A\nname: B\nwhat\n- (1,1) 1. Pet (CAT) # the end\ndown"
    let spread := "---\r\nname: A\r\n\r\nname: B\r\ntag: x\rwhat\n  - (1,1) 1. Pet (CAT)\nacross:\n\n- (1,1) 1. Pet (DOG)"
    halt (cleanLines strayText.toList) = 3 ∧
    ((cleanLines cut.toList).take 4 = (cleanLines strayText.toList).take 4 ∧
      read cut = { read strayText with source := cut }) ∧
    (cleanLines spread.toList).filter Line.saysSomething =
      (cleanLines strayText.toList).filter Line.saysSomething ∧
    read spread = { read strayText with source := spread } := by
  intro cut spread
  have hhalt : halt (cleanLines strayText.toList) = 3 := by decide
  have hcut : (cleanLines cut.toList).take 4 = (cleanLines strayText.toList).take 4 := by decide
  have hspread : (cleanLines spread.toList).filter Line.saysSomething =
      (cleanLines strayText.toList).filter Line.saysSomething := by decide
  obtain ⟨-, -, htake, hfilter⟩ := read_readFrom strayText
  exact ⟨hhalt, ⟨hcut, htake cut (by rw [hhalt]; exact hcut)⟩, hspread, hfilter spread hspread⟩

end Puzzle

end Cruciverb
