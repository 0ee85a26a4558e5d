import Cruciverb.Grid.Coord
import Mathlib.Data.List.Basic

namespace Cruciverb

variable {α β γ ε : Type}

-- The first element that is not done has the property.
inductive FirstIn (done P : α → Prop) : List α → Prop where
  | here {a : α} {as : List α} (h : P a) : FirstIn done P (a :: as)
  | later {a : α} {as : List α} (ha : done a) (h : FirstIn done P as) : FirstIn done P (a :: as)

namespace FirstIn

variable {done P : α → Prop} {a : α} {as : List α}

@[simp] theorem not_nil : ¬ FirstIn done P [] := nofun

@[simp] theorem cons_iff : FirstIn done P (a :: as) ↔ P a ∨ done a ∧ FirstIn done P as := by
  constructor
  · rintro (h | ⟨ha, h⟩)
    · exact .inl h
    · exact .inr ⟨ha, h⟩
  · rintro (h | ⟨ha, h⟩)
    · exact .here h
    · exact .later ha h

theorem exists_mem (h : FirstIn done P as) : ∃ a ∈ as, P a := by
  induction h with
  | here h => exact ⟨_, List.mem_cons_self, h⟩
  | later _ _ ih =>
    obtain ⟨a, hmem, ha⟩ := ih
    exact ⟨a, List.mem_cons_of_mem _ hmem, ha⟩

theorem and_iff {p : Prop} : FirstIn done (fun a => p ∧ P a) as ↔ p ∧ FirstIn done P as := by
  induction as with
  | nil => simp
  | cons a as ih =>
    rw [cons_iff, cons_iff, ih]
    tauto

-- Across comes first.
theorem directions_iff {done P : Direction → Prop} :
    FirstIn done P Direction.all ↔ P .across ∨ done .across ∧ P .down := by
  simp [Direction.all]

end FirstIn

-- A recursion along a list that ends where a step fails, with the failure of that step.
structure Stepwise (run : List α → Except ε β) (step : α → Except ε γ) : Prop where
  nil : ∀ e, run [] ≠ .error e
  stop : ∀ {a as e}, step a = .error e → run (a :: as) = .error e
  more : ∀ {a as c e}, step a = .ok c → (run (a :: as) = .error e ↔ run as = .error e)

namespace Stepwise

variable {run : List α → Except ε β} {step : α → Except ε γ}

theorem error_iff (h : Stepwise run step) {as : List α} {e : ε} : run as = .error e ↔
    FirstIn (fun a => ∃ c, step a = .ok c) (step · = .error e) as := by
  induction as with
  | nil => simp [h.nil e]
  | cons a as ih =>
    rw [FirstIn.cons_iff]
    cases hstep : step a with
    | error e' => simp [h.stop hstep]
    | ok c => simp [h.more hstep, ih]

end Stepwise

end Cruciverb
