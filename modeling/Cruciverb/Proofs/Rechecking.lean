import Cruciverb.Document.Regenerated
import Cruciverb.Proofs.Derived
import Cruciverb.Proofs.Puzzle.Safety

namespace Cruciverb

open Cruciverb.Answer

namespace Puzzle

variable {p q q' : Puzzle}

-- Whatever comes of a puzzle is told by it, except for the clues that are noted with the starts.
theorem Outcome.unique (h : p.Outcome q) (h' : p.Outcome q') (hsource : q'.source = q.source) :
    q' = { q with starts := q'.starts } := by
  have hfield (f : Field) : q'.field? f = q.field? f := (h'.field f).trans (h.field f).symm
  have hgrid : q'.grid = q.grid := by
    obtain ⟨grid, hgrid, hshows⟩ := h.grid
    obtain ⟨grid', hgrid', hshows'⟩ := h'.grid
    rw [hgrid, hgrid', hshows'.unique hshows fun _ _ => Iff.rfl]
  cases q'
  rw [mk.injEq]
  exact ⟨Option.some.inj (hfield .version), hfield .name, Option.some.inj (hfield .author),
    Option.some.inj (hfield .editor), Option.some.inj (hfield .publisher),
    Option.some.inj (hfield .copyright), Option.some.inj (hfield .pubdate),
    h'.dimensions.trans h.dimensions.symm, h'.clues.trans h.clues.symm, h'.errors.trans h.errors.symm,
    hsource, h'.side.trans h.side.symm, hgrid, rfl, h'.answers.trans h.answers.symm⟩

-- Notes of the starts that are kept by the clues' own ids.
theorem starts_ext {starts starts' : Table Clue} (hkey : ∀ k c, starts.get? k = some c → c.id = k)
    (hkey' : ∀ k c, starts'.get? k = some c → c.id = k)
    (hposition : starts'.map (·.position) = starts.map (·.position)) :
    starts'.map (fun c => (c.id, c.position)) = starts.map fun c => (c.id, c.position) := by
  have hkeyed (t : Table Clue) (ht : ∀ k c, t.get? k = some c → c.id = k) (k : Nat) :
      (t.get? k).map (fun c => (c.id, c.position)) = ((t.map (·.position)).get? k).map (k, ·) := by
    rw [Table.get?_map, Option.map_map]
    exact Option.map_congr fun c hc => by rw [Function.comp_apply, ht k c hc]
  apply Table.ext_get?
  intro k
  rw [Table.get?_map, Table.get?_map, hkeyed _ hkey, hkeyed _ hkey', hposition]

-- A puzzle that is what comes of it is left as it is.
theorem Outcome.validate_self (hq : q.Outcome q) (hl : q.Lawful)
    (hvisible : ∀ e ∈ q.entries, e.Visible) :
    q.validate.Valid ∧ q.validate = { q with starts := q.validate.starts } ∧
      q.validate.starts.map (·.position) = q.starts.map (·.position) := by
  have hagain := outcome hvisible hq.errors hl
  refine ⟨hagain.errors, hq.unique hagain rfl, ?_⟩
  apply Table.ext_get?
  intro k
  rw [Table.get?_map, Table.get?_map, Option.ext_iff]
  intro pos
  rw [hq.starts, hagain.starts]

-- What is derived from a puzzle reads off the starts only where they are.
theorem derived_eq {starts : Table Clue} (h : starts.map (·.position) = q.starts.map (·.position)) :
    Spec.ofPuzzle { q with starts } = Spec.ofPuzzle q ∧
      (∀ withAnswers, ({ q with starts } : Puzzle).regenerated withAnswers = q.regenerated withAnswers) ∧
      ({ q with starts } : Puzzle).picture = q.picture := by
  refine ⟨?_, fun _ => rfl, rfl⟩
  exact Spec.ofPuzzle_congr (fun f _ => by cases f <;> rfl) rfl rfl rfl h rfl rfl

-- A clue is noted with its start before it is settled, so that only the second check notes it settled.
theorem validate_validate {text : String} (h : (read text).errors = [])
    (hv : (read text).validate.Valid) :
    (read text).validate.validate.Valid ∧
      (∃ starts, (read text).validate.validate = { (read text).validate with starts } ∧
        starts.map (fun c => (c.id, c.position)) =
          (read text).validate.starts.map fun c => (c.id, c.position)) ∧
      Spec.ofPuzzle (read text).validate.validate = Spec.ofPuzzle (read text).validate ∧
      (∀ withAnswers, (read text).validate.validate.regenerated withAnswers =
        (read text).validate.regenerated withAnswers) ∧
      (read text).validate.validate.picture = (read text).validate.picture := by
  have hlegible := legible_read text
  have hl := (hlegible.validate_valid_iff h).mp hv
  have hq := hlegible.outcome h hl
  have hself := hq.self hl hlegible.visible_entries
  have hretells := hq.retells_settled
  have hl' := hretells.lawful hl
  have hvisible := hretells.visible hlegible.visible_entries fun _ hne => hne
  have hkey (p : Puzzle) (k : Nat) (c : Clue) (hc : p.validate.starts.get? k = some c) : c.id = k :=
    (p.framed_walked.starts k c hc).2.1
  set q := (read text).validate with hdef
  obtain ⟨hvalid, hsame, hstarts⟩ := hself.validate_self hl' hvisible
  refine ⟨hvalid, ⟨q.validate.starts, hsame, starts_ext (hkey _) (hkey _) hstarts⟩, ?_⟩
  rw [hsame]
  exact derived_eq hstarts

-- Placeholders that give way to their number, a length with a zero in front, and a letter that is crossed.
def placeholderText : String :=
  "across\n- (1,1) 1. Pet (C*T)\n- (1,5) 2. Animals (02,1)\ndown\n- (1,1) 1. Fish (COD)"

theorem validate_validate_placeholderText :
    (read placeholderText).errors = [] ∧ (read placeholderText).validate.Valid ∧
      (read placeholderText).validate.validate.Valid ∧
      Spec.ofPuzzle (read placeholderText).validate.validate =
        Spec.ofPuzzle (read placeholderText).validate := by
  have hread : (read placeholderText).errors = [] := by decide
  have hv : (read placeholderText).validate.Valid := by decide
  obtain ⟨hvalid, -, hspec, -⟩ := validate_validate hread hv
  exact ⟨hread, hv, hvalid, hspec⟩

end Puzzle

end Cruciverb
