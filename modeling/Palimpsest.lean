import Palimpsest.Golden
import Palimpsest.Main
import Palimpsest.Session.Call
import Palimpsest.Proofs.Program.Mirror
import Palimpsest.Proofs.Thread.Editing
import Palimpsest.Proofs.Thread.Step
import Palimpsest.Proofs.Thread.Rebase
import Palimpsest.Proofs.Thread.Failure
import Palimpsest.Proofs.Thread.Agreement
import Palimpsest.Proofs.Session.Extent
import Palimpsest.Proofs.Session.Agreement
import Palimpsest.Proofs.Session.Options
import Palimpsest.Proofs.Grid.Entry
import Palimpsest.Proofs.Program.Entry
import Palimpsest.Proofs.Session.Moves
import Palimpsest.Proofs.Session.Status
import Palimpsest.Proofs.Receipt.Form
import Palimpsest.Proofs.Session.Receipt
import Palimpsest.Proofs.Machine.Fairness
import Palimpsest.Proofs.Program.ClickHandlers
import Palimpsest.Proofs.Thread.Overlap
import Palimpsest.Proofs.Thread.Effect
import Palimpsest.Proofs.Machine.Bystanders
import Palimpsest.Proofs.Session.Acts
import Palimpsest.Proofs.Session.Pointers
import Palimpsest.Proofs.Thread.Lines
import Palimpsest.Proofs.Session.Lines
import Palimpsest.Proofs.Thread.Overflow
import Palimpsest.Proofs.Session.Escapes
import Palimpsest.Proofs.Thread.Telling
import Palimpsest.Proofs.Machine.Table
import Palimpsest.Proofs.Machine.History
import Palimpsest.Proofs.Session.Trace
import Palimpsest.Proofs.Thread.Saving
import Palimpsest.Proofs.Machine.Twins
import Palimpsest.Proofs.Session.Twins
import Palimpsest.Proofs.Session.Restart
import Palimpsest.Proofs.Session.Budget
import Palimpsest.Proofs.CommandLine.Agreement
import Palimpsest.Proofs.Location.Code
import Palimpsest.Proofs.Grid.WordList
import Palimpsest.Proofs.Grid.Headers
import Palimpsest.Proofs.Thread.Locality
import Palimpsest.Proofs.Thread.Appending
import Palimpsest.Proofs.Program.Splice
import Palimpsest.Proofs.Program.Loading
import Palimpsest.Proofs.Cluster.Boundary
import Palimpsest.Proofs.Thread.Copying
import Palimpsest.Proofs.Thread.Addresses
import Palimpsest.Proofs.Grid.Scanning
import Palimpsest.Proofs.Location.Grammar
import Palimpsest.Proofs.Thread.Arithmetic
import Palimpsest.Proofs.Session.StraightLine
import Palimpsest.Proofs.Json.Reading
