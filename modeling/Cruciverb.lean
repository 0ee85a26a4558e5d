import Cruciverb.Answer.Words
import Cruciverb.Compilation
import Cruciverb.Document.Regenerated
import Cruciverb.Grid.Access
import Cruciverb.Grid.Template
import Cruciverb.Import.CompilerExport
import Cruciverb.Import.LegacySpec
import Cruciverb.Import.QuickSlow
import Cruciverb.Json.Reader
import Cruciverb.Main
import Cruciverb.PublicationDate
import Cruciverb.Puzzle.Validation
import Cruciverb.Spec
import Cruciverb.Xml.Tree
import Cruciverb.Proofs.Compilation
import Cruciverb.Proofs.Import.Rebuilding
import Cruciverb.Proofs.Import.SpecRoundTrip
import Cruciverb.Proofs.Projections
import Cruciverb.Proofs.Rechecking
import Cruciverb.Proofs.Recompilation
import Cruciverb.Proofs.Unsolved
import Cruciverb.Proofs.PublicationDate
import Cruciverb.Proofs.CommandLine
import Cruciverb.Proofs.Import.ExportLayout
import Cruciverb.Proofs.Document.Remains
import Cruciverb.Proofs.Answer.Unpacking
import Cruciverb.Proofs.Answer.Decomposition
import Cruciverb.Proofs.Grid.Access
import Cruciverb.Proofs.Grid.Templates
import Cruciverb.Proofs.Import.ClueLists
import Cruciverb.Proofs.Import.ListGrid
import Cruciverb.Proofs.Import.ListSlots
import Cruciverb.Proofs.Import.ExportCells
import Cruciverb.Proofs.Import.ExportTexts
import Cruciverb.Proofs.Import.ExportSpec
import Cruciverb.Proofs.Import.Distribution
import Cruciverb.Proofs.Import.SequenceText
import Cruciverb.Proofs.Import.SpreadClues
import Cruciverb.Proofs.Coherence
import Cruciverb.Proofs.Import.SpecAnswers
import Cruciverb.Proofs.Document.LineByLine
import Cruciverb.Proofs.Document.RoundTrip
import Cruciverb.Proofs.Document.Spacing
import Cruciverb.Proofs.Puzzle.Rejection
import Cruciverb.Proofs.Puzzle.Diagnosis
import Cruciverb.Proofs.Puzzle.Safety
import Cruciverb.Proofs.Import.CellAccess
import Cruciverb.Proofs.Import.LengthCheck
import Cruciverb.Proofs.Import.MarkerLines
import Cruciverb.Proofs.Xml.Reconstruction
