import Cruciverb.Proofs.Import.ClueLists
import Cruciverb.Proofs.Import.ExportLines

namespace Cruciverb

open Cruciverb.Answer Cruciverb.Text

namespace Answer.Format

variable {f : Format} {letters : List Char}

end Answer.Format

namespace Import

variable {t : ClueTable}

namespace QuickSlow

end QuickSlow

-- One clue for a word of three letters.
def petTable (format : String) : ClueTable :=
  ⟨Table.empty.insert 1 ⟨"Pet", format, none⟩, .empty⟩

def petAnswers : Table (Starts (List Char)) := Table.empty.insert 1 ⟨some "CAT".toList, none⟩

example : exportLines (petTable "1,2") petAnswers [(1, ⟨1, 1⟩)] =
    .ok ⟨[⟨⟨1, 1⟩, 1, "Pet", "C,AT"⟩], []⟩ := by decide

-- The two lengths are three more than a machine word can hold.
example : exportLines (petTable "18446744073709551615,4") petAnswers [(1, ⟨1, 1⟩)] =
    .error (.fault .overflow) := by decide

end Import

end Cruciverb
