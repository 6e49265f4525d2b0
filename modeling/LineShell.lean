import LineShell.Cli.Program
import LineShell.Interpreter
import LineShell.Main
import LineShell.Render
import LineShell.Settings.Sources
import LineShell.Proofs.Scan.Outline
import LineShell.Proofs.Run.Scripts
import LineShell.Proofs.Scan.Evaluation
import LineShell.Proofs.Run.Dispatch
import LineShell.Proofs.Run.Level
import LineShell.Proofs.Run.Confined
import LineShell.Proofs.Nesting.Restrained
import LineShell.Proofs.Nesting.Core
import LineShell.Proofs.Nesting.Limit
import LineShell.Proofs.Nesting.Recurrence
import LineShell.Proofs.Run.Unregistered
import LineShell.Proofs.Trace.Account
import LineShell.Proofs.Trace.Abort
import LineShell.Proofs.Trace.SpanTree
import LineShell.Proofs.Trace.Muted
import LineShell.Proofs.Observers.Dispatch
import LineShell.Proofs.Observers.Outcome
import LineShell.Proofs.Observers.Delivery
import LineShell.Proofs.Plugins.Declaring
import LineShell.Proofs.Plugins.Discovery
import LineShell.Proofs.Plugins.Builtin
import LineShell.Proofs.Nesting.Descent
import LineShell.Proofs.Plugins.CoreOnly
import LineShell.Proofs.Scan.Depth
import LineShell.Proofs.Run.Kept
import LineShell.Proofs.Plugins.Contributions
import LineShell.Proofs.Plugins.Blocking
import LineShell.Proofs.Registry.Chronicle
import LineShell.Proofs.Registry.Orderly
import LineShell.Proofs.Registry.Reentrant
import LineShell.Proofs.Settings.Leaves
import LineShell.Proofs.Settings.Layers
import LineShell.Proofs.Settings.Variables
import LineShell.Proofs.Settings.Gathered
import LineShell.Proofs.Settings.Given
import LineShell.Proofs.Settings.Priority
import LineShell.Proofs.Entries
import LineShell.Proofs.Scan.Boundary
import LineShell.Proofs.Scan.Written
import LineShell.Proofs.Scan.Literal
import LineShell.Proofs.Run.Unnested
import LineShell.Proofs.Parameter.FirstFault
import LineShell.Proofs.Parameter.Registration
import LineShell.Proofs.Plugins.TypeLoading
import LineShell.Proofs.Parameter.Extension
import LineShell.Proofs.Parameter.Arity
import LineShell.Proofs.Plugins.CommandLoading
import LineShell.Proofs.Parameter.Integer
import LineShell.Proofs.Plugins.Enlisting
import LineShell.Proofs.Files
import LineShell.Proofs.Plugins.Isolated
import LineShell.Proofs.Shell.Channels
import LineShell.Proofs.Shell.Depth
import LineShell.Proofs.Shell.Fold
import LineShell.Proofs.Paths
import LineShell.Proofs.Settings.Nearest
import LineShell.Proofs.Text.Fitting
import LineShell.Proofs.Shell.Verbatim
