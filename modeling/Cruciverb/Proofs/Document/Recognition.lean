import Cruciverb.Proofs.Document.Reading

namespace Cruciverb

open Cruciverb.Text

namespace Line

-- What the lines of a document may begin with, in small letters.
def firstSigns : List Char := ['-', 'a', 'c', 'd', 'e', 'l', 'n', 'p', 's', 't', 'v']

variable {key : Char → Char} {c : Char} {cs : List Char}

-- A key that begins with one of the signs is in no text that begins with another.
theorem dropWord?_eq_none {word : List Char} (hc : key c ∉ firstSigns)
    (hword : word.head?.any firstSigns.contains = true) : dropWord? key word (c :: cs) = none := by
  cases word with
  | nil => cases hword
  | cons w word =>
    have hw : w ∈ firstSigns := List.contains_iff_mem.mp hword
    have hne : key c ≠ w := fun heq => hc (heq ▸ hw)
    rw [dropWord?, if_neg hne]

theorem dropAnyWord?_eq_none {α : Type} {words : List (List Char × α)} (hc : key c ∉ firstSigns)
    (hwords : words.all (fun e => e.1.head?.any firstSigns.contains) = true) :
    dropAnyWord? key words (c :: cs) = none := by
  rw [List.all_eq_true] at hwords
  rw [dropAnyWord?, List.findSome?_eq_none_iff]
  rintro ⟨word, a⟩ he
  dsimp only
  rw [dropWord?_eq_none hc (hwords _ he)]
  rfl

theorem isFrontMatter_eq_false (hc : c ∉ firstSigns) : isFrontMatter (c :: cs) = false := by
  have hkeys : ∀ key ∈ ["layout:", "tag:", "tags:", "permalink:"],
      key.toList.head?.any firstSigns.contains = true := by decide
  rw [isFrontMatter, List.any_eq_false]
  intro key hkey
  rw [dropWord?_eq_none hc (hkeys key hkey)]
  exact Bool.false_ne_true

theorem clueHead?_eq_none (hc : c ≠ '-') : clueHead? (c :: cs) = none := by
  unfold clueHead?
  split
  · next heq =>
    rw [List.cons.injEq] at heq
    exact absurd heq.1 hc
  · rfl

-- No kind of line begins with any other sign, in whatever way its case is folded.
theorem read_eq_unrecognised (hlower : c.toLower ∉ firstSigns) (hfold : fold c ∉ firstSigns) :
    read (c :: cs) = .unrecognised := by
  have hself : c ∉ firstSigns := by
    intro hmem
    have hsmall : firstSigns.map Char.toLower = firstSigns := by decide
    exact hlower (hsmall ▸ List.mem_map_of_mem hmem)
  have hdash : c ≠ '-' := by
    rintro rfl
    exact hself (by decide)
  have hfield : field? (c :: cs) = none := by
    rw [field?, dropAnyWord?_eq_none hlower (by decide)]
  have hpubdate : pubdate? (c :: cs) = none := by
    rw [pubdate?, dropWord?_eq_none hlower (by decide)]
  have hsize : size? (c :: cs) = none := by
    rw [size?, dropAnyWord?_eq_none hfold (by decide)]
  have hgrouping : grouping? (c :: cs) = none := by
    rw [grouping?, dropAnyWord?_eq_none hlower (by decide)]
  have hclue : clue? (c :: cs) = none := by
    rw [clue?, clueHead?_eq_none hdash]
  have hrule : (c :: cs == "---".toList) = false := by
    rw [← Bool.not_eq_true, beq_iff_eq]
    intro heq
    exact hdash (List.cons.inj heq).1
  simp only [read, List.isEmpty_cons, hrule, isFrontMatter_eq_false hself, Bool.or_self,
    Bool.false_eq_true, if_false, hfield, hpubdate, hsize, hgrouping, hclue]

end Line

namespace Puzzle

variable {grouping : Option Direction} {ls : List (List Char)} {p : Puzzle}

-- What is reported stays reported, so that every line has been passed without a report.
theorem recognised_of_readLines (h : (readLines grouping ls p).errors = []) :
    p.errors = [] ∧ ∀ l ∈ ls, Line.read l ≠ .unrecognised := by
  induction ls generalizing grouping p with
  | nil => exact ⟨h, by simp⟩
  | cons l ls ih =>
    rw [List.forall_mem_cons]
    rw [readLines] at h
    cases hline : Line.read l with
    | ignored =>
      rw [hline] at h
      obtain ⟨hp, hls⟩ := ih h
      exact ⟨hp, by simp, hls⟩
    | field f value =>
      rw [hline] at h
      obtain ⟨hp, hls⟩ := ih h
      exact ⟨(errors_set (.field f value) p).symm.trans hp, by simp, hls⟩
    | size d =>
      rw [hline] at h
      obtain ⟨hp, hls⟩ := ih h
      exact ⟨hp, by simp, hls⟩
    | grouping d =>
      rw [hline] at h
      obtain ⟨hp, hls⟩ := ih h
      exact ⟨hp, by simp, hls⟩
    | clue line =>
      rw [hline] at h
      cases grouping with
      | none => simp at h
      | some d =>
        obtain ⟨hp, hls⟩ := ih h
        exact ⟨hp, by simp, hls⟩
    | unrecognised =>
      rw [hline] at h
      have hreported := (ih h).1
      simp at hreported

theorem source_readLines (grouping : Option Direction) (ls : List (List Char)) (p : Puzzle) :
    (readLines grouping ls p).source = p.source := by
  refine readLines_keeps (P := (·.source = p.source)) ?_ grouping rfl
  rintro l - q q' hstep hq
  cases hstep with
  | heading h _ => exact (source_set h q).trans hq
  | clue | error => exact hq

end Puzzle

end Cruciverb
