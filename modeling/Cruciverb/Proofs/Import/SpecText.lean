import Cruciverb.Proofs.Json.RoundTrip
import Cruciverb.Proofs.Puzzle.Outcome
import Cruciverb.Proofs.SourceFormat
import Cruciverb.Spec

namespace Cruciverb

open Cruciverb.Answer Cruciverb.Text

namespace Json.Fits

variable {levels : Nat} {members : List (String × Json)}

theorem ofText_compact (h : (Json.object members).Fits levels) :
    SourceFormat.ofText (Json.object members).compact = .legacySpec := by
  have htext : (Json.object members).compact.toList = (Json.object members).text := String.toList_ofList
  have hfirst : ∃ rest, (Json.object members).text = '\x7b' :: rest := ⟨_, rfl⟩
  obtain ⟨rest, hfirst⟩ := hfirst
  refine SourceFormat.ofText_eq_legacySpec (htext.trans hfirst) ?_
  rw [htext]
  exact h.noNewline_text

theorem fromLegacySpec_compact (h : (Json.object members).Fits levels) (hlevels : levels ≤ deepest)
    (settings : Settings) : Import.fromLegacySpec settings (Json.object members).compact =
      Import.specDocument settings (Json.object members).arranged := by
  unfold Import.fromLegacySpec
  rw [h.read?_compact hlevels, arranged]

end Json.Fits

namespace Spec

variable {s : Spec}

-- No number of the spec is too large for a machine word.
structure Small (s : Spec) : Prop where
  side : s.side < wordLimit
  gridnums : ∀ row ∈ s.gridnums, ∀ n ∈ row, n < wordLimit
  clue : ∀ d, ∀ c ∈ s.clues.get d, c.id < wordLimit ∧ ∀ n ∈ c.wordLengths, n < wordLimit

theorem fits_bothJson {α : Type} {levels : Nat} {f : α → Json} {b : Both (List α)}
    (h : ∀ d, ∀ a ∈ b.get d, (f a).Fits levels) : (bothJson f b).Fits (levels + 2) := by
  have hacross : ∀ a ∈ b.across, (f a).Fits levels := h .across
  have hdown : ∀ a ∈ b.down, (f a).Fits levels := h .down
  apply Json.Fits.object
  simp only [List.forall_mem_cons]
  exact ⟨.array (List.forall_mem_map.mpr hacross), .array (List.forall_mem_map.mpr hdown), by simp⟩

theorem fits_nats {levels : Nat} {ns : List Nat} (h : ∀ n ∈ ns, n < wordLimit) :
    (Json.array (ns.map Json.nat)).Fits (levels + 1) :=
  .array (List.forall_mem_map.mpr fun n hn => .number (h n hn))

theorem Small.fits_toJson (h : s.Small) : s.toJson.Fits 5 := by
  have hclues : (bothJson clueJson s.clues).Fits 4 := fits_bothJson fun d c hc => by
    obtain ⟨hid, hlengths⟩ := h.clue d c hc
    apply Json.Fits.array
    simp only [List.forall_mem_cons]
    exact ⟨.number hid, .string _, fits_nats hlengths, .string _, by simp⟩
  have hgrid : (Json.array (s.grid.map fun row => .array (row.map fun c => .string c.toString))).Fits 4 :=
    .array (List.forall_mem_map.mpr fun row _ => .array (List.forall_mem_map.mpr fun c _ => .string _))
  have hgridnums : (Json.array (s.gridnums.map fun row => .array (row.map Json.nat))).Fits 4 :=
    .array (List.forall_mem_map.mpr fun row hrow => fits_nats (h.gridnums row hrow))
  have hsize : (Json.object [("rows", .nat s.side), ("cols", .nat s.side)]).Fits 4 := by
    apply Json.Fits.object
    simp only [List.forall_mem_cons]
    exact ⟨.number h.side, .number h.side, by simp⟩
  have hname (key : String) : ∀ m ∈ optional key (s.name.map .string), m.2.Fits 4 := by
    cases s.name with
    | none => simp [optional]
    | some name => simpa [optional] using Json.Fits.string name
  have hanswers : ∀ m ∈ optional "answers" (s.answers.map (bothJson .string)), m.2.Fits 4 := by
    cases s.answers with
    | none => simp [optional]
    | some answers =>
      simpa [optional] using @fits_bothJson _ 2 _ answers fun d a _ => Json.Fits.string a
  apply Json.Fits.object
  simp only [List.forall_mem_append, List.forall_mem_cons]
  exact ⟨⟨⟨⟨hname "name", .string _, .string _, .string _, .string _, .string _, hsize, hgrid, hgridnums,
    hclues, by simp⟩, hanswers⟩, .string _, by simp⟩, hname "id"⟩

theorem Small.ofText_text (h : s.Small) : SourceFormat.ofText s.text = .legacySpec :=
  h.fits_toJson.ofText_compact

-- The members that importing a spec looks at, as they are found in a value.
structure HeldBy (s : Spec) (v : Json) : Prop where
  name : (v.member? "name").or (v.member? "id") = s.name.map .string
  text : ∀ e ∈ [("author", s.author), ("editor", s.editor), ("copyright", s.copyright),
    ("publisher", s.publisher), ("date", s.date)], v.member? e.1 = some (.string e.2)
  rows : (v.member? "size").bind (·.member? "rows") = some (.nat s.side)
  grid : (v.member? "grid").isSome
  gridnums : v.member? "gridnums" =
    some (.array (s.gridnums.map fun row => .array (row.map Json.nat)))
  clues : ∀ d, (v.member? "clues").bind (·.member? d.name) =
    some (.array ((s.clues.get d).map clueJson))
  answers : ∀ d, (v.member? "answers").bind (·.member? d.name) =
    s.answers.map fun answers => .array ((answers.get d).map .string)

theorem arranged_nats (ns : List Nat) :
    (Json.array (ns.map Json.nat)).arranged = .array (ns.map Json.nat) := by
  rw [Json.arranged, Json.arrangedItems_eq, List.map_map]
  rfl

theorem arranged_clueJson (c : SpecClue) : (clueJson c).arranged = clueJson c := by
  rw [clueJson, Json.arranged]
  simp only [Json.arrangedItems, arranged_nats]
  rfl

theorem member?_bothJson {α : Type} {f : α → Json} (hf : ∀ a, (f a).arranged = f a)
    (b : Both (List α)) (d : Direction) :
    (bothJson f b).arranged.member? d.name = some (.array ((b.get d).map f)) := by
  have hget : (bothJson f b).member? d.name = some (.array ((b.get d).map f)) := by cases d <;> rfl
  rw [bothJson, Json.member?_arranged (by simp), ← bothJson, hget, Option.map_some, Json.arranged,
    Json.arrangedItems_eq, List.map_map]
  simp only [Function.comp_def, hf]

-- No key is there twice, so that the order of the members does not matter.
theorem member?_toJson (s : Spec) (k : String) :
    s.toJson.arranged.member? k = (s.toJson.member? k).map Json.arranged := by
  refine Json.member?_arranged ?_ k
  cases s.name <;> cases s.answers <;> simp [optional]

theorem heldBy_arranged (s : Spec) : s.HeldBy s.toJson.arranged := by
  have hfixed : ∀ e ∈ [("author", Json.string s.author), ("editor", .string s.editor),
      ("copyright", .string s.copyright), ("publisher", .string s.publisher), ("date", .string s.date),
      ("size", .object [("rows", .nat s.side), ("cols", .nat s.side)]),
      ("grid", .array (s.grid.map fun row => .array (row.map fun c => .string c.toString))),
      ("gridnums", .array (s.gridnums.map fun row => .array (row.map Json.nat))),
      ("clues", bothJson clueJson s.clues)],
      s.toJson.arranged.member? e.1 = some e.2.arranged := by
    simp only [member?_toJson]
    cases hname : s.name <;> simp [toJson, optional, Json.member?, hname]
  simp only [List.forall_mem_cons] at hfixed
  obtain ⟨hauthor, heditor, hcopyright, hpublisher, hdate, hsize, hgrid, hgridnums, hclues, -⟩ := hfixed
  refine ⟨?_, ?_, ?_, ?_, ?_, fun d => ?_, fun d => ?_⟩
  · rw [member?_toJson, member?_toJson]
    cases hname : s.name <;> cases hanswers : s.answers
    all_goals simp [toJson, optional, Json.member?, hname, hanswers, Json.arranged]
  · simp only [List.forall_mem_cons]
    exact ⟨hauthor, heditor, hcopyright, hpublisher, hdate, by simp⟩
  · rw [hsize, Option.bind_some, Json.member?_arranged (by simp)]
    rfl
  · rw [hgrid]
    rfl
  · rw [hgridnums, Json.arranged, Json.arrangedItems_eq, List.map_map]
    simp only [Function.comp_def, arranged_nats]
  · rw [hclues, Option.bind_some]
    exact member?_bothJson arranged_clueJson s.clues d
  · rw [member?_toJson]
    cases hname : s.name <;> cases hanswers : s.answers
    all_goals simp [toJson, optional, Json.member?, hname, hanswers]
    all_goals exact member?_bothJson (fun _ => rfl) _ d

end Spec

end Cruciverb
