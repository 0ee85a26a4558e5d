import Cruciverb.Document.Reader
import Cruciverb.Proofs.Puzzle.Walk
import Mathlib.Data.List.InsertIdx

namespace Cruciverb

open Cruciverb.Answer

-- All that the checks of a clue consult. The largest id is only looked at when the walk is over.
structure Walk.Same (v w : Walk) : Prop where
  grid : v.grid = w.grid
  starts : v.starts = w.starts
  answers : v.answers = w.answers

structure Step.Same (s t : Step) : Prop where
  clue : s.clue = t.clue
  walk : s.walk.Same t.walk
  last : s.last = t.last
  problems : s.problems = t.problems

namespace Walk.Same

variable {u v w : Walk}

theorem refl (w : Walk) : w.Same w := ⟨rfl, rfl, rfl⟩

theorem symm (h : v.Same w) : w.Same v := ⟨h.grid.symm, h.starts.symm, h.answers.symm⟩

theorem trans (h : u.Same v) (h' : v.Same w) : u.Same w :=
  ⟨h.grid.trans h'.grid, h.starts.trans h'.starts, h.answers.trans h'.answers⟩

theorem exists_eq (h : v.Same w) : ∃ maxId, v = { w with maxId } := by
  obtain ⟨grid, starts, answers, maxId⟩ := v
  obtain ⟨rfl, rfl, rfl⟩ := h
  exact ⟨maxId, rfl⟩

end Walk.Same

section Check

variable {side last : Nat} {d : Direction} {v w : Walk} {clue : Clue} {problem : Problem}

theorem placeAnswer_same (h : v.Same w) :
    (placeAnswer side d v last clue).Same (placeAnswer side d w last clue) := by
  obtain ⟨maxId, rfl⟩ := h.exists_eq
  rw [placeAnswer, placeAnswer]
  dsimp only
  split
  · exact ⟨rfl, h, rfl, rfl⟩
  · split
    · exact ⟨rfl, ⟨rfl, rfl, rfl⟩, rfl, rfl⟩
    · exact ⟨rfl, ⟨rfl, rfl, rfl⟩, rfl, rfl⟩

theorem checkClue_same (h : v.Same w) :
    (checkClue side d v last clue).Same (checkClue side d w last clue) := by
  obtain ⟨maxId, rfl⟩ := h.exists_eq
  rw [checkClue, checkClue]
  dsimp only
  split
  · exact ⟨rfl, h, rfl, rfl⟩
  split
  · exact ⟨rfl, ⟨rfl, rfl, rfl⟩, rfl, rfl⟩
  split
  · exact ⟨rfl, ⟨rfl, rfl, rfl⟩, rfl, rfl⟩
  split
  · split
    · exact placeAnswer_same ⟨rfl, rfl, rfl⟩
    · exact ⟨rfl, ⟨rfl, rfl, rfl⟩, rfl, rfl⟩
  · exact placeAnswer_same ⟨rfl, rfl, rfl⟩

-- One step: a clue that is turned away leaves nothing behind but its id, which may be the largest.
theorem checkClue_of_rejects (h : problem ∈ (checkClue side d w last clue).problems)
    (hr : problem.rejects = true) :
    (checkClue side d w last clue).Same ⟨clue, w, last, [problem]⟩ := by
  rcases checkClue_cases side d w last clue with ⟨maxId, other, -, heq⟩ | ⟨-, -, -, starts, -, heq⟩
  · rw [heq] at h ⊢
    obtain rfl := List.mem_singleton.mp h
    exact ⟨rfl, ⟨rfl, rfl, rfl⟩, rfl, rfl⟩
  · rw [heq] at h
    rw [rejects_of_mem_placeAnswer h] at hr
    cases hr

end Check

-- What the walk finds about each clue: the clue as it leaves it, and its problems.
def findings (side : Nat) (d : Direction) :
    (w : Walk) → (last : Nat) → List Clue → List (Clue × List Problem) × Walk
  | w, _, [] => ([], w)
  | w, last, clue :: rest =>
    let step := checkClue side d w last clue
    let (found, w) := findings side d step.walk step.last rest
    ((step.clue, step.problems) :: found, w)

def report (d : Direction) (finding : Clue × List Problem) : List Puzzle.Error :=
  finding.2.map fun problem => .clue problem d finding.1.source

section Run

variable {side last : Nat} {d : Direction} {v w : Walk} {clue : Clue} {clues : List Clue}

theorem findings_of_step {step : Step} (h : checkClue side d w last clue = step) (rest : List Clue) :
    findings side d w last (clue :: rest) =
      ((step.clue, step.problems) :: (findings side d step.walk step.last rest).1,
        (findings side d step.walk step.last rest).2) := by
  subst h
  rfl

theorem walkClues_eq (w : Walk) (last : Nat) (clues : List Clue) : walkClues side d w last clues =
    ((findings side d w last clues).1.map Prod.fst, (findings side d w last clues).2,
      (findings side d w last clues).1.flatMap (report d)) := by
  induction clues generalizing w last with
  | nil => rfl
  | cons clue rest ih =>
    have hsource : (checkClue side d w last clue).clue.source = clue.source :=
      congrArg (·.2.2.2) given_checkClue
    simp only [walkClues, findings, ih, List.map_cons, List.flatMap_cons, report, hsource]

theorem findings_same (h : v.Same w) (last : Nat) (clues : List Clue) :
    (findings side d v last clues).1 = (findings side d w last clues).1 ∧
      (findings side d v last clues).2.Same (findings side d w last clues).2 := by
  induction clues generalizing v w last with
  | nil => exact ⟨rfl, h⟩
  | cons clue rest ih =>
    have hstep : (checkClue side d v last clue).Same (checkClue side d w last clue) := checkClue_same h
    obtain ⟨hfound, hwalk⟩ := ih hstep.walk (checkClue side d w last clue).last
    rw [findings_of_step rfl, findings_of_step rfl, hstep.clue, hstep.problems, hstep.last]
    exact ⟨congrArg (List.cons _) hfound, hwalk⟩

-- The run: from the clue that is turned away on, the two walks stay the same.
theorem findings_eraseIdx {problem : Problem} {problems : List Problem} (h : v.Same w) {i : Nat}
    (hi : (findings side d w last clues).1[i]? = some (clue, problems)) (hproblem : problem ∈ problems)
    (hr : problem.rejects = true) :
    problems = [problem] ∧ clues[i]? = some clue ∧
      (findings side d v last (clues.eraseIdx i)).1 = (findings side d w last clues).1.eraseIdx i ∧
      (findings side d v last (clues.eraseIdx i)).2.Same (findings side d w last clues).2 := by
  induction clues generalizing v w last i with
  | nil => cases hi
  | cons first rest ih =>
    cases i with
    | zero =>
      obtain ⟨rfl, rfl⟩ := Prod.mk.inj (Option.some.inj hi)
      have hstep := checkClue_of_rejects hproblem hr
      obtain ⟨hfound, hwalk⟩ :=
        @findings_same side d _ _ (hstep.walk.trans h.symm).symm (checkClue side d w last first).last rest
      rw [hstep.last] at hfound hwalk
      rw [List.eraseIdx_cons_zero, findings_of_step rfl, hstep.last]
      exact ⟨hstep.problems, congrArg some hstep.clue.symm, hfound, hwalk⟩
    | succ i =>
      have hstep : (checkClue side d v last first).Same (checkClue side d w last first) := checkClue_same h
      obtain ⟨hproblems, hclue, hfound, hwalk⟩ := ih hstep.walk hi
      rw [List.eraseIdx_cons_succ, findings_of_step rfl, findings_of_step rfl, hstep.clue, hstep.problems,
        hstep.last]
      exact ⟨hproblems, hclue, congrArg (List.cons _) hfound, hwalk⟩

end Run

namespace Puzzle

def Error.ofClue : Error → Bool
  | .clue _ _ _ => true
  | _ => false

variable {p : Puzzle} {d : Direction} {i : Nat} {clue : Clue} {problem : Problem} {problems : List Problem}

-- What checking finds about the clues, and the walk behind the last of them.
def found (p : Puzzle) : Both (List (Clue × List Problem)) × Walk :=
  let side := p.dimensions.side
  let across := findings side .across (Walk.start side) 0 p.clues.across
  let down := findings side .down across.2 0 p.clues.down
  (⟨across.1, down.1⟩, down.2)

-- The reports of each clue.
def reports (p : Puzzle) : Both (List (List Error)) := Both.of fun d => (p.found.1.get d).map (report d)

def problemsOf (p : Puzzle) (d : Direction) (i : Nat) : List Problem :=
  ((p.found.1.get d)[i]?.map Prod.snd).getD []

def eraseClue (p : Puzzle) (d : Direction) (i : Nat) : Puzzle :=
  { p with clues := p.clues.modify d (·.eraseIdx i) }

-- All that the checks on the ids as a whole can report.
inductive Error.OfNumbering : Error → Prop where
  | missingId (id : Nat) : OfNumbering (.missingId id)
  | startsAbove (id previous : Nat) : OfNumbering (.startsAbove id previous)
  | sameStart (id previous : Nat) : OfNumbering (.sameStart id previous)
  | startsLeftOf (id previous : Nat) : OfNumbering (.startsLeftOf id previous)

theorem ofNumbering_of_misplaced? {side : Nat} {pair : (Nat × Clue) × (Nat × Clue)} {e : Error}
    (h : misplaced? side pair = some e) : e.OfNumbering := by
  unfold misplaced? at h
  dsimp only at h
  split at h
  · cases h
  split at h
  · cases h
    exact .startsAbove ..
  split at h
  · cases h
    exact .sameStart ..
  · cases h
    exact .startsLeftOf ..

theorem ofNumbering_of_mem {side : Nat} {w : Walk} {e : Error} (h : e ∈ numberingErrors side w) :
    e.OfNumbering := by
  rw [numberingErrors] at h
  split at h
  · obtain ⟨pair, -, hmisplaced⟩ := List.exists_of_findSome?_eq_some (Option.mem_toList.mp h)
    exact ofNumbering_of_misplaced? hmisplaced
  · obtain ⟨id, -, rfl⟩ := List.mem_map.mp h
    exact .missingId id

theorem filter_numberingErrors (side : Nat) (w : Walk) :
    (numberingErrors side w).filter Error.ofClue = [] := by
  rw [List.filter_eq_nil_iff]
  intro e he
  cases ofNumbering_of_mem he <;> exact Bool.false_ne_true

-- The checks on the ids as a whole report no clue.
theorem filter_closed (side : Nat) (w : Walk) (errors : List Error) :
    (if errors.isEmpty then numberingErrors side w else errors).filter Error.ofClue =
      errors.filter Error.ofClue := by
  split
  · next hnone => rw [filter_numberingErrors, List.isEmpty_iff.mp hnone, List.filter_nil]
  · rfl

theorem filter_flatMap_report (d : Direction) (found : List (Clue × List Problem)) :
    (found.flatMap (report d)).filter Error.ofClue = found.flatMap (report d) := by
  rw [List.filter_eq_self]
  intro e he
  obtain ⟨finding, -, he⟩ := List.mem_flatMap.mp he
  obtain ⟨problem, -, rfl⟩ := List.mem_map.mp he
  rfl

theorem validate_found (p : Puzzle) :
    p.validate.grid = some p.found.2.grid ∧ p.validate.starts = p.found.2.starts ∧
    p.validate.answers = some p.found.2.answers ∧ p.validate.clues = p.found.1.map (·.map Prod.fst) ∧
    p.validate.errors.filter Error.ofClue =
      p.errors.filter Error.ofClue ++ (p.reports.across ++ p.reports.down).flatten := by
  rw [validate]
  simp only [walkClues_eq]
  refine ⟨rfl, rfl, rfl, rfl, ?_⟩
  have hreports : (p.reports.across ++ p.reports.down).flatten =
      p.found.1.across.flatMap (report .across) ++ p.found.1.down.flatMap (report .down) :=
    List.flatten_append
  have hnoClues : ∀ b : Bool, (if b then [Error.noClues] else []).filter Error.ofClue = [] := by decide
  rw [hreports, filter_closed, List.filter_append, List.filter_append, List.filter_append, hnoClues,
    filter_flatMap_report, filter_flatMap_report, List.append_nil, List.append_assoc]
  rfl

theorem found_eraseClue (hi : (p.found.1.get d)[i]? = some (clue, problems))
    (hproblem : problem ∈ problems) (hrejects : problem.rejects = true) :
    problems = [problem] ∧ (p.clues.get d)[i]? = some clue ∧
      (p.eraseClue d i).found.1 = p.found.1.modify d (·.eraseIdx i) ∧
      (p.eraseClue d i).found.2.Same p.found.2 := by
  cases d with
  | across =>
    obtain ⟨hproblems, hclue, hfound, hwalk⟩ :=
      findings_eraseIdx (.refl (Walk.start p.dimensions.side)) hi hproblem hrejects
    obtain ⟨hdown, hend⟩ := @findings_same p.dimensions.side .down _ _ hwalk 0 p.clues.down
    exact ⟨hproblems, hclue, congrArg₂ Both.mk hfound hdown, hend⟩
  | down =>
    obtain ⟨hproblems, hclue, hfound, hwalk⟩ :=
      findings_eraseIdx (.refl _) hi hproblem hrejects
    exact ⟨hproblems, hclue, congrArg (Both.mk _) hfound, hwalk⟩

-- The grid, the starts, the answers, all other clues and what is reported about them stay what they are.
theorem validate_eraseClue (hproblem : problem ∈ p.problemsOf d i) (hrejects : problem.rejects = true) :
    let q := p.eraseClue d i
    q.validate.grid = p.validate.grid ∧ q.validate.starts = p.validate.starts ∧
    q.validate.answers = p.validate.answers ∧
    q.validate.clues = p.validate.clues.modify d (·.eraseIdx i) ∧
    q.reports = p.reports.modify d (·.eraseIdx i) ∧
    (∃ clue, (p.clues.get d)[i]? = some clue ∧
      (p.reports.get d)[i]? = some [.clue problem d clue.source]) ∧
    p.validate.errors.filter Error.ofClue =
      p.errors.filter Error.ofClue ++ (p.reports.across ++ p.reports.down).flatten ∧
    q.validate.errors.filter Error.ofClue =
      p.errors.filter Error.ofClue ++ (q.reports.across ++ q.reports.down).flatten := by
  intro q
  obtain ⟨⟨clue, problems⟩, hi, hmem⟩ : ∃ finding, (p.found.1.get d)[i]? = some finding ∧
      problem ∈ finding.2 := by
    rw [problemsOf] at hproblem
    cases hi : (p.found.1.get d)[i]? with
    | none => simp [hi] at hproblem
    | some finding => exact ⟨finding, rfl, by simpa [hi] using hproblem⟩
  obtain ⟨rfl, hclue, hfound, hwalk⟩ := found_eraseClue hi hmem hrejects
  obtain ⟨hgrid, hstarts, hanswers, hclues, herrors⟩ := p.validate_found
  obtain ⟨hgrid', hstarts', hanswers', hclues', herrors'⟩ := q.validate_found
  refine ⟨?_, ?_, ?_, ?_, ?_, ⟨clue, hclue, ?_⟩, herrors, herrors'⟩
  · rw [hgrid, hgrid', hwalk.grid]
  · rw [hstarts, hstarts', hwalk.starts]
  · rw [hanswers, hanswers', hwalk.answers]
  · rw [hclues, hclues', hfound]
    cases d with
    | across => exact congrArg (Both.mk · _) (List.eraseIdx_map _ _ _).symm
    | down => exact congrArg (Both.mk _) (List.eraseIdx_map _ _ _).symm
  · rw [reports, reports, hfound]
    cases d with
    | across => exact congrArg (Both.mk · _) (List.eraseIdx_map _ _ _).symm
    | down => exact congrArg (Both.mk _) (List.eraseIdx_map _ _ _).symm
  · rw [reports, Both.get_of, List.getElem?_map, hi]
    rfl

-- The second clue starts beyond the grid, and the last one clashes with the first.
def strayPuzzle : Puzzle :=
  read "size: 15x15\nacross:\n- (1,1) 1. Pet (CAT)\n- (16,1) 7. Far (DOG)\ndown:\n- (1,1) 1. Dot (DOT)"

theorem validate_eraseClue_strayPuzzle :
    Problem.xTooLarge ∈ strayPuzzle.problemsOf .across 1 ∧
    (strayPuzzle.eraseClue .across 1).validate.grid = strayPuzzle.validate.grid ∧
    (strayPuzzle.eraseClue .across 1).reports = ⟨[[]], strayPuzzle.reports.down⟩ ∧
    strayPuzzle.reports = ⟨[[], [.clue .xTooLarge .across "- (16,1) 7. Far (DOG)"]],
      [[.clue (.letterClash 1) .down "- (1,1) 1. Dot (DOT)"]]⟩ := by
  have hproblem : Problem.xTooLarge ∈ strayPuzzle.problemsOf .across 1 := by decide
  have hreports : strayPuzzle.reports = ⟨[[], [.clue .xTooLarge .across "- (16,1) 7. Far (DOG)"]],
      [[.clue (.letterClash 1) .down "- (1,1) 1. Dot (DOT)"]]⟩ := by decide
  obtain ⟨hgrid, -, -, -, herased, -⟩ := validate_eraseClue hproblem rfl
  refine ⟨hproblem, hgrid, herased.trans ?_, hreports⟩
  rw [hreports]
  rfl

end Puzzle

end Cruciverb
