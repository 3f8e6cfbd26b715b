import ScopedSheets.Main
import ScopedSheets.Proofs.Position
import ScopedSheets.Proofs.Text.Transfer
import ScopedSheets.Proofs.Store.Edits
import ScopedSheets.Proofs.Selector
import ScopedSheets.Proofs.Selector.WholeWord
import ScopedSheets.Proofs.Selector.ScopeAbove
import ScopedSheets.Proofs.Fragment.Header
import ScopedSheets.Proofs.Fragment.Outline
import ScopedSheets.Proofs.Fragment.Depth
import ScopedSheets.Proofs.Fragment.Nesting
import ScopedSheets.Proofs.Fragment.Printing
import ScopedSheets.Proofs.Fragment.RoundTrip
import ScopedSheets.Proofs.Fragment.InsertedScope
import ScopedSheets.Proofs.Fragment.Appending
import ScopedSheets.Proofs.Fragment.AddedComment
import ScopedSheets.Proofs.Fragment.SlashAndStar
import ScopedSheets.Proofs.Fragment.MediaHeader
import ScopedSheets.Proofs.Fragment.Statement
import ScopedSheets.Proofs.Fragment.Quoting
import ScopedSheets.Proofs.Fragment.LineEnds
import ScopedSheets.Proofs.Sheet.MarkerEnd
import ScopedSheets.Proofs.Sheet.MarkerName
import ScopedSheets.Proofs.Sheet.NestedMarker
import ScopedSheets.Proofs.Sheet.Division
import ScopedSheets.Proofs.Sheet.Fault
import ScopedSheets.Proofs.Sheet.Appending
import ScopedSheets.Proofs.Sheet.LineEnds
import ScopedSheets.Proofs.Bundle.Inputs
import ScopedSheets.Proofs.Bundle.Run
import ScopedSheets.Proofs.Bundle.Outcome
import ScopedSheets.Proofs.Bundle.Atomicity
import ScopedSheets.Proofs.Bundle.Minifying
import ScopedSheets.Proofs.Bundle.Rerun
import ScopedSheets.Proofs.Host.Path
import ScopedSheets.Proofs.Cli.UnmarkedSheet
