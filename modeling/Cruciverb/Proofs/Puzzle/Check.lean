import Cruciverb.Puzzle.Validation

namespace Cruciverb

open Cruciverb.Answer

-- The problems that end the checks of a clue before its answer.
def Problem.rejects : Problem → Bool
  | .nonPositiveId | .idOutOfSequence | .xTooLarge | .yTooLarge | .xTooSmall | .yTooSmall
  | .sharedIdClash => true
  | .word _ | .answerTooLong | .answerOverflows | .letterClash _ => false

-- What was read of a clue and is not rewritten when it is checked.
def Clue.given (c : Clue) : Coord × Nat × String × String := (c.position, c.id, c.body, c.source)

-- The starts once a clue has been noted. It is the first with its id, or starts where the first one does.
inductive Noted (clue : Clue) (starts : Table Clue) : Table Clue → Prop
  | first (h : starts.get? clue.id = none) : Noted clue starts (starts.insert clue.id clue)
  | again {other : Clue} (h : starts.get? clue.id = some other)
      (hposition : other.position = clue.position) : Noted clue starts starts

variable {side last : Nat} {d : Direction} {w : Walk} {clue : Clue}

theorem positionProblem?_eq_none_iff (side : Nat) (c : Coord) :
    positionProblem? side c = none ↔ c.Within side := by
  rw [positionProblem?, Coord.Within]
  repeat' split
  all_goals simp only [reduceCtorEq, true_iff, false_iff]; omega

theorem positionProblem?_rejects {c : Coord} {problem : Problem}
    (h : positionProblem? side c = some problem) : problem.rejects = true := by
  unfold positionProblem? at h
  repeat' split at h
  all_goals cases h
  all_goals rfl

theorem checkClue_cases (side : Nat) (d : Direction) (w : Walk) (last : Nat) (clue : Clue) :
    (∃ maxId problem, problem.rejects = true ∧
      checkClue side d w last clue = ⟨clue, { w with maxId }, last, [problem]⟩) ∨
    0 < clue.id ∧ last < clue.id ∧ clue.position.Within side ∧
      ∃ starts, Noted clue w.starts starts ∧ checkClue side d w last clue =
        placeAnswer side d { w with maxId := max w.maxId clue.id, starts } last clue := by
  rw [checkClue]
  dsimp only
  split
  · exact .inl ⟨w.maxId, _, rfl, rfl⟩
  next hid =>
  split
  · exact .inl ⟨_, _, rfl, rfl⟩
  next hlast =>
  split
  · next hposition => exact .inl ⟨_, _, positionProblem?_rejects hposition, rfl⟩
  next hposition =>
  have hwithin := (positionProblem?_eq_none_iff side clue.position).mp hposition
  split
  · next other hother =>
    split
    · next hsame => exact .inr ⟨by omega, by omega, hwithin, _, .again hother hsame, rfl⟩
    · exact .inl ⟨_, _, rfl, rfl⟩
  · next hnone => exact .inr ⟨by omega, by omega, hwithin, _, .first hnone, rfl⟩

-- Looking at the answer finds things out about the clue and changes nothing else of it, and the ids are
-- left as they are.
theorem placeAnswer_frame :
    (placeAnswer side d w last clue).clue.given = clue.given ∧
    (placeAnswer side d w last clue).walk.starts = w.starts ∧
    (placeAnswer side d w last clue).walk.maxId = w.maxId := by
  rw [placeAnswer]
  dsimp only
  split
  · exact ⟨rfl, rfl, rfl⟩
  · split
    · exact ⟨rfl, rfl, rfl⟩
    · exact ⟨rfl, rfl, rfl⟩

theorem given_checkClue : (checkClue side d w last clue).clue.given = clue.given := by
  rcases checkClue_cases side d w last clue with ⟨maxId, problem, -, heq⟩ | ⟨-, -, -, starts, -, heq⟩
  · rw [heq]
  · rw [heq]
    exact placeAnswer_frame.1

theorem rejects_of_mem_placeAnswer {problem : Problem}
    (h : problem ∈ (placeAnswer side d w last clue).problems) : problem.rejects = false := by
  rw [placeAnswer] at h
  dsimp only at h
  split at h
  · simp only [List.mem_append, List.mem_map, List.mem_singleton] at h
    rcases h with ⟨flaw, -, rfl⟩ | rfl <;> rfl
  · split at h
    · simp only [List.mem_append, List.mem_map, List.mem_singleton] at h
      rcases h with ⟨flaw, -, rfl⟩ | rfl <;> rfl
    · simp only [List.mem_append, List.mem_map] at h
      rcases h with ⟨flaw, -, rfl⟩ | ⟨letter, -, rfl⟩ <;> rfl

end Cruciverb
