import Cruciverb.Proofs.Document.Recognition
import Cruciverb.Proofs.Text.FirstSign
import Cruciverb.SourceFormat

namespace Cruciverb

open Cruciverb.Import Cruciverb.Text

namespace SourceFormat

theorem fold_of_startsWithMarker {c : Char} {cs : List Char} (h : startsWithMarker (c :: cs) = true) :
    fold c = 'q' := by
  by_contra hne
  have hdrop : dropWord? fold "quick".toList (c :: cs) = none := if_neg hne
  rw [startsWithMarker, hdrop] at h
  cases h

-- Where nothing but blanks has been passed, the marker may be the first sign of the line that is being
-- read; otherwise it is that of a line further on.
theorem exists_begins_of_hasMarkerFrom {fresh : Bool} {cs : List Char}
    (h : hasMarkerFrom fresh cs = true) :
    ∃ l ∈ if fresh then lines cs else (lines cs).tail, Begins (fun c => fold c = 'q') l := by
  induction cs generalizing fresh with
  | nil => cases h
  | cons c cs ih =>
    rw [hasMarkerFrom, Bool.or_eq_true, Bool.and_eq_true] at h
    by_cases hend : isLineEnd c = true
    · have hblank := isBlank_of_isLineEnd hend
      have hrest : hasMarkerFrom (c == '\n' || fresh && isBlank c) cs = true := by
        refine h.resolve_left fun hstart => ?_
        rw [not_blank_of_fold (fold_of_startsWithMarker hstart.2)] at hblank
        cases hblank
      obtain ⟨l, hl, hbegins⟩ := ih hrest
      have hmem : l ∈ lines cs := by
        split at hl
        · exact hl
        · exact List.mem_of_mem_tail hl
      rw [lines_cons_of_isLineEnd hend]
      refine ⟨l, ?_, hbegins⟩
      split
      · exact List.mem_cons_of_mem _ hmem
      · exact hmem
    · have hend : isLineEnd c = false := by simpa using hend
      have hnewline : (c == '\n') = false := by
        rw [isLineEnd, Bool.or_eq_false_iff] at hend
        exact hend.2
      obtain ⟨first, rest, hcs, hlines⟩ := @exists_lines_cons c cs hend
      rw [hlines]
      rcases h with ⟨rfl, hstart⟩ | hrest
      · have hfold := fold_of_startsWithMarker hstart
        exact ⟨_, List.mem_cons_self,
          (begins_cons_of_not_blank (not_blank_of_fold hfold)).mpr hfold⟩
      · obtain ⟨l, hl, hbegins⟩ := ih hrest
        rw [hnewline, Bool.false_or, hcs] at hl
        by_cases hfresh : (fresh && isBlank c) = true
        · rw [if_pos hfresh] at hl
          rw [Bool.and_eq_true] at hfresh
          rw [if_pos hfresh.1]
          rcases List.mem_cons.mp hl with rfl | hl
          · exact ⟨_, List.mem_cons_self, (begins_cons_of_blank hfresh.2).mpr hbegins⟩
          · exact ⟨l, List.mem_cons_of_mem _ hl, hbegins⟩
        · rw [if_neg hfresh] at hl
          refine ⟨l, ?_, hbegins⟩
          split
          · exact List.mem_cons_of_mem _ hl
          · exact hl

variable {text : String} {P : Char → Prop}

-- A line of a document begins with one of its own signs.
theorem not_begins (h : (Puzzle.read text).errors = []) (hP : ¬ P '#')
    (hsigns : ∀ c, P c → c.toLower ∉ Line.firstSigns ∧ fold c ∉ Line.firstSigns) :
    ∀ l ∈ lines text.toList, ¬ Begins P l := by
  intro l hl hbegins
  obtain ⟨c, rest, hc, hclean⟩ := exists_cleanLine_eq hbegins hP
  have hread := (Puzzle.recognised_of_readLines h).2 (cleanLine l) (List.mem_map_of_mem hl)
  rw [hclean] at hread
  exact hread (Line.read_eq_unrecognised (hsigns c hc).1 (hsigns c hc).2)

theorem hasMarker_eq_false_of_read (h : (Puzzle.read text).errors = []) :
    hasMarker text.toList = false := by
  rw [← Bool.not_eq_true]
  intro hmarker
  obtain ⟨l, hl, hbegins⟩ := exists_begins_of_hasMarkerFrom hmarker
  refine not_begins h (by decide) (fun c hc => ?_) l hl hbegins
  rw [toLower_of_fold hc, hc]
  decide

theorem head?_ne_of_read (h : (Puzzle.read text).errors = []) {c : Char} (hc : c ≠ '#')
    (hsigns : c.toLower ∉ Line.firstSigns ∧ fold c ∉ Line.firstSigns) :
    (trimStart text.toList).head? ≠ some c := by
  intro hhead
  obtain ⟨l, hl, hbegins⟩ := exists_begins_of_head? hhead (rfl : c = c)
  exact not_begins (P := (c = ·)) h hc (fun _ hd => hd ▸ hsigns) l hl hbegins

theorem ofText_of_read (h : (Puzzle.read text).errors = []) : ofText text = .document := by
  have hbrace := head?_ne_of_read h (c := '\x7b') (by decide) (by decide)
  have hangle := head?_ne_of_read h (c := '<') (by decide) (by decide)
  have hxml : xmlDeclaration.isPrefixOf (trimStart text.toList) = false := by
    cases hfront : trimStart text.toList with
    | nil => rfl
    | cons c cs =>
      rw [hfront, List.head?_cons] at hangle
      have hne : ('<' == c) = false := beq_eq_false_iff_ne.mpr fun heq => hangle (congrArg some heq.symm)
      show ('<' == c && _) = false
      rw [hne, Bool.false_and]
  simp only [ofText, hasMarker_eq_false_of_read h, hbrace, hxml, Bool.false_eq_true, if_false,
    Bool.not_false, if_true]

-- Behind the first sign of a line no marker counts until the next line.
theorem hasMarkerFrom_eq_false {cs : List Char} (h : '\n' ∉ cs) : hasMarkerFrom false cs = false := by
  induction cs with
  | nil => rfl
  | cons c cs ih =>
    rw [List.mem_cons, not_or] at h
    have hc : (c == '\n') = false := by simpa using Ne.symm h.1
    simp only [hasMarkerFrom, Bool.false_and, Bool.false_or, hc, Bool.or_self]
    exact ih h.2

-- A brace at the very beginning opens a spec.
theorem ofText_eq_legacySpec {rest : List Char} (htext : text.toList = '\x7b' :: rest)
    (hnewline : '\n' ∉ text.toList) : ofText text = .legacySpec := by
  have hmarker : hasMarker text.toList = false := by
    rw [htext, List.mem_cons, not_or] at hnewline
    rw [htext]
    exact hasMarkerFrom_eq_false hnewline.2
  have hfront : (trimStart text.toList).head? = some '\x7b' := by
    rw [htext, trimStart, List.dropWhile_cons]
    rfl
  simp only [ofText, hmarker, hfront, Bool.false_eq_true, if_false, if_true]

-- A declaration at the very beginning, with the tag behind it, opens an export.
theorem ofText_eq_compilerExport {rest : List Char} (htext : text.toList = xmlDeclaration ++ rest)
    (hnewline : '\n' ∉ text.toList) (htag : occurs compilerTag text.toList = true) :
    ofText text = .compilerExport := by
  have hfirst : text.toList = '<' :: ("?xml".toList ++ rest) := htext
  have hmarker : hasMarker text.toList = false := by
    rw [hfirst, List.mem_cons, not_or] at hnewline
    rw [hfirst]
    exact hasMarkerFrom_eq_false hnewline.2
  have hfront : trimStart text.toList = '<' :: ("?xml".toList ++ rest) := by
    rw [hfirst, trimStart, List.dropWhile_cons]
    rfl
  have hdeclared : xmlDeclaration.isPrefixOf (trimStart text.toList) = true := by
    rw [hfront]
    rfl
  have hbrace : (trimStart text.toList).head? ≠ some '\x7b' := by simp [hfront]
  simp [ofText, hmarker, hbrace, hdeclared, htag]

end SourceFormat

end Cruciverb
