import Cruciverb.Proofs.Document.Remains

namespace Cruciverb

open Cruciverb.Text

namespace Document

variable {doc : Document}

structure Writable (doc : Document) : Prop where
  fields : ∀ e ∈ doc.fields, ∃ g : Heading, g.Readable ∧ g.entry = e
  clues : ∀ d, ∀ c ∈ doc.clues.get d, c.Writable

def valueFor? (key : String) (e : String × String) : Option String := if e.1 = key then some e.2 else none

-- The value that the document gives last to a key.
def lastValue? (doc : Document) (key : String) : Option String :=
  (doc.fields.filterMap (valueFor? key)).getLast?

theorem valueFor?_entry (f : Field) (g : Heading) : valueFor? f.key g.entry = g.value? f := by
  cases g with
  | field other value =>
    rw [valueFor?, Heading.entry, Heading.value?]
    by_cases hf : other = f
    · rw [if_pos (congrArg Field.key hf), if_pos hf]
    · rw [if_neg fun hkey => hf (Field.key_inj hkey), if_neg hf]
  | size d => exact if_neg f.key_ne_size.symm

theorem valueFor?_size (g : Heading) :
    valueFor? "size" g.entry = g.dimensions?.map Dimensions.text := by
  cases g with
  | field f value => exact if_neg f.key_ne_size
  | size d => exact if_pos rfl

theorem Writable.exists_headings (h : doc.Writable) :
    ∃ hs : List Heading, doc.fields = hs.map Heading.entry ∧ ∀ g ∈ hs, g.Readable := by
  have hentry : ∀ e ∈ doc.fields, ∃ g : { g : Heading // g.Readable }, id e = g.1.entry := by
    intro e he
    obtain ⟨g, hr, heq⟩ := h.fields e he
    exact ⟨⟨g, hr⟩, heq.symm⟩
  obtain ⟨gs, hgs⟩ := exists_map_eq_map hentry
  refine ⟨gs.map Subtype.val, ?_, List.forall_mem_map.mpr fun g _ => g.2⟩
  rw [List.map_map, ← List.map_id doc.fields, hgs]
  rfl

theorem lastValue?_key {hs : List Heading} (hfields : doc.fields = hs.map Heading.entry) (f : Field) :
    doc.lastValue? f.key = (hs.filterMap (Heading.value? f)).getLast? := by
  rw [lastValue?, hfields, List.filterMap_map]
  exact congrArg (fun value? => (hs.filterMap value?).getLast?) (funext (valueFor?_entry f))

theorem lastValue?_size {hs : List Heading} (hfields : doc.fields = hs.map Heading.entry) :
    doc.lastValue? "size" = (hs.filterMap Heading.dimensions?).getLast?.map Dimensions.text := by
  rw [lastValue?, hfields, List.filterMap_map, ← List.getLast?_map, List.map_filterMap]
  exact congrArg (fun value? => (hs.filterMap value?).getLast?) (funext valueFor?_size)

-- Nothing of such a document is lost, and nothing is taken for anything else.
theorem read_writable (h : doc.Writable) :
    (Puzzle.read doc.text).errors = [] ∧
    (∀ d, ((Puzzle.read doc.text).clues.get d).map Clue.toClueLine = doc.clues.get d) ∧
    (∀ f : Field, (Puzzle.read doc.text).field? f =
      (doc.lastValue? f.key).or (({} : Puzzle).field? f)) ∧
    (Puzzle.read doc.text).dimensions.text =
      (doc.lastValue? "size").getD ({} : Puzzle).dimensions.text := by
  obtain ⟨hs, hfields, hr⟩ := h.exists_headings
  rw [read_text hfields hr h.clues]
  refine ⟨Puzzle.errors_setAll hs _, fun d => ?_, fun f => ?_, ?_⟩
  · rw [Both.get_map, List.map_map]
    exact List.map_id _
  · have hdefault : ({ source := doc.text } : Puzzle).field? f = ({} : Puzzle).field? f := by
      cases f <;> rfl
    rw [lastValue?_key hfields, ← hdefault, ← Puzzle.field?_setAll_eq]
    cases f <;> rfl
  · rw [lastValue?_size hfields, Puzzle.dimensions_setAll_eq]
    cases (hs.filterMap Heading.dimensions?).getLast? <;> rfl

-- Bodies that hold numbers, parentheses and a whole clue line, and keys that are given twice.
def nestedDocument : Document where
  fields := [("name", "Old"), ("size", "17x17"), ("pubdate", "2020/01/31"), ("size", "15x15"),
    ("name", "across: No. 7 (CAT)")]
  clues := ⟨[⟨⟨1, 18446744073709551615⟩, 4294967295, "- (1,1) 1. Pet (CAT)", "DOG-*,"⟩],
    [⟨⟨0, 17⟩, 0, "1. (3) (4,5) end.", "3,4"⟩]⟩

theorem writable_nestedDocument : nestedDocument.Writable := by
  have hname : ∀ {value : String}, Clean value.toList → value.toList ≠ [] →
      (Heading.field .name value).Readable := fun hclean hne =>
    ⟨{ hclean with ne_nil := hne }, fun hdate => by cases hdate⟩
  have hbody : ∀ {body : List Char}, Whole body → body ≠ [] →
      (∀ c, body.head? = some c → isBlank c = false) → Line.IsBody body := fun hwhole hne hhead =>
    { hwhole with ne_nil := hne, head := .inl hhead }
  refine ⟨?_, fun d c hc => ?_⟩
  · simp only [nestedDocument, List.forall_mem_cons]
    exact ⟨⟨.field .name "Old", hname (by decide) (by decide), rfl⟩, ⟨.size .seventeen, trivial, rfl⟩,
      ⟨.field .pubdate "2020/01/31", Field.takes_pubdate (by decide), rfl⟩, ⟨.size .fifteen, trivial, rfl⟩,
      ⟨.field .name "across: No. 7 (CAT)", hname (by decide) (by decide), rfl⟩, by simp⟩
  · cases d with
    | across | down =>
      obtain rfl := List.mem_singleton.mp hc
      exact ⟨by decide, by decide, by decide, hbody (by decide) (by decide) (by decide), by decide⟩

theorem read_writable_nestedDocument :
    nestedDocument.Writable ∧ (Puzzle.read nestedDocument.text).errors = [] ∧
    (∀ d, ((Puzzle.read nestedDocument.text).clues.get d).map Clue.toClueLine =
      nestedDocument.clues.get d) ∧
    (Puzzle.read nestedDocument.text).field? .name = some "across: No. 7 (CAT)" ∧
    (Puzzle.read nestedDocument.text).dimensions = .fifteen := by
  obtain ⟨herrors, hclues, hfield, hdimensions⟩ := read_writable writable_nestedDocument
  have hlastName : nestedDocument.lastValue? Field.name.key = some "across: No. 7 (CAT)" := rfl
  have hlastSize : nestedDocument.lastValue? "size" = some "15x15" := rfl
  have hname := hfield .name
  rw [hlastName, Option.some_or] at hname
  rw [hlastSize, Option.getD_some] at hdimensions
  refine ⟨writable_nestedDocument, herrors, hclues, hname, ?_⟩
  cases hd : (Puzzle.read nestedDocument.text).dimensions with
  | fifteen => rfl
  | seventeen =>
    rw [hd] at hdimensions
    exact absurd hdimensions (by decide)

end Document

end Cruciverb
