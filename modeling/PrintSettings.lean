import PrintSettings.Main
import PrintSettings.Proofs.Pair.Quoted
import PrintSettings.Proofs.Pair.Last
import PrintSettings.Proofs.Pair.Malformed
import PrintSettings.Proofs.Arguments.Reader
import PrintSettings.Proofs.Arguments.Joined
import PrintSettings.Proofs.Command.Inputs
import PrintSettings.Proofs.Arguments.RoundTrip
import PrintSettings.Proofs.Scope.Network
import PrintSettings.Proofs.Scope.Resolution
import PrintSettings.Proofs.Scope.Writes
import PrintSettings.Proofs.Scope.Chain
import PrintSettings.Proofs.Scope.Limits
import PrintSettings.Proofs.Scope.Operations
import PrintSettings.Proofs.Document.Containers
import PrintSettings.Proofs.Document.Overlay
import PrintSettings.Proofs.Document.Overrides
import PrintSettings.Proofs.Definitions
import PrintSettings.Proofs.Outcome
import PrintSettings.Proofs.File
import PrintSettings.Proofs.Command.Answers
import PrintSettings.Proofs.Command.Forms
import PrintSettings.Proofs.Command.Precedence
import PrintSettings.Proofs.Command.Stages
import PrintSettings.Proofs.Command.Advisory
import PrintSettings.Proofs.Command.Phases
import PrintSettings.Proofs.Command.Reports
import PrintSettings.Proofs.Command.Extruders
import PrintSettings.Proofs.Numeric.Nearest
import PrintSettings.Proofs.Numeric.Value
import PrintSettings.Proofs.Numeric.Notation
import PrintSettings.Proofs.Value.Listed
import PrintSettings.Proofs.Numeric.Sum
import PrintSettings.Proofs.Value.Circle
import PrintSettings.Proofs.Text.Longest
import PrintSettings.Proofs.Numeric.Leading
import PrintSettings.Proofs.Numeric.Hexadecimal
import PrintSettings.Proofs.Value.Grammar
import PrintSettings.Proofs.Value.Rows
import PrintSettings.Proofs.Value.Number
import PrintSettings.Proofs.Value.Integer
import PrintSettings.Proofs.Value.Piecewise
import PrintSettings.Proofs.Value.Millimetres
import PrintSettings.Proofs.Yaml.Collections
import PrintSettings.Proofs.Value.Stable
import PrintSettings.Proofs.Value.Flag
import PrintSettings.Proofs.Text.Escaped
import PrintSettings.Proofs.Command.OutOfRange
