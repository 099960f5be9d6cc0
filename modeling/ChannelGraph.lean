import ChannelGraph.OrderedMap
import ChannelGraph.Text.Quoted
import ChannelGraph.TypeExpr.Written
import ChannelGraph.TypeExpr.Token
import ChannelGraph.TypeExpr.Reading
import ChannelGraph.Bindings.Unify
import ChannelGraph.Json.Reading
import ChannelGraph.Json.Writing
import ChannelGraph.Part
import ChannelGraph.Document.Lenient
import ChannelGraph.Document.Basic
import ChannelGraph.Document.Conversion
import ChannelGraph.Graph.Unusable
import ChannelGraph.Graph.Report
import ChannelGraph.FileTree
import ChannelGraph.Toml.Reading
import ChannelGraph.Settings
import ChannelGraph.Command.Invocation
import ChannelGraph.Command.Execution
import ChannelGraph.Main
import ChannelGraph.Proofs.OrderedMap
import ChannelGraph.Proofs.Lists
import ChannelGraph.Proofs.Decimal.Rounding
import ChannelGraph.Proofs.Decimal.Shortest
import ChannelGraph.Proofs.Decimal.Digits
import ChannelGraph.Proofs.Json.Reading
import ChannelGraph.Proofs.Json.Numbers
import ChannelGraph.Proofs.Json.Readable
import ChannelGraph.Proofs.Json.Writing
import ChannelGraph.Proofs.Document.Checked
import ChannelGraph.Proofs.Document.Parts
import ChannelGraph.Proofs.Document.Readable
import ChannelGraph.Proofs.Document.Written
import ChannelGraph.Proofs.TypeExpr.Substitution
import ChannelGraph.Proofs.TypeExpr.Reading
import ChannelGraph.Proofs.Bindings.Acyclic
import ChannelGraph.Proofs.Bindings.Following
import ChannelGraph.Proofs.Bindings.Solving
import ChannelGraph.Proofs.Bindings.Descent
import ChannelGraph.Proofs.Bindings.MostGeneral
import ChannelGraph.Proofs.Bindings.Reachable
import ChannelGraph.Proofs.Inference.Constraints
import ChannelGraph.Proofs.Inference.Invariant
import ChannelGraph.Proofs.Inference.Work
import ChannelGraph.Proofs.Inference.Visits
import ChannelGraph.Proofs.Inference.Commit
import ChannelGraph.Proofs.Inference.Principal
import ChannelGraph.Proofs.Inference.Coherence
import ChannelGraph.Proofs.Bindings.Runs
import ChannelGraph.Proofs.Inference.Frame
import ChannelGraph.Proofs.Inference.Sweep
import ChannelGraph.Proofs.Inference.Blame
import ChannelGraph.Proofs.Graph.PinSet
import ChannelGraph.Proofs.Graph.Wiring
import ChannelGraph.Proofs.Graph.Refreshing
import ChannelGraph.Proofs.Graph.Deleting
import ChannelGraph.Proofs.Graph.Editing
import ChannelGraph.Proofs.Graph.Agreement
import ChannelGraph.Proofs.Graph.Saving
import ChannelGraph.Proofs.Graph.Idempotence
import ChannelGraph.Proofs.Graph.Rewiring
import ChannelGraph.Proofs.Graph.Loading
import ChannelGraph.Proofs.TypeExpr.Tokens
import ChannelGraph.Proofs.TypeExpr.Spacing
import ChannelGraph.Proofs.TypeExpr.Grammar
import ChannelGraph.Proofs.TypeExpr.Acceptance
import ChannelGraph.Proofs.Part
import ChannelGraph.Proofs.TypeExpr.Names
import ChannelGraph.Proofs.TypeExpr.BuiltFrom
import ChannelGraph.Proofs.TypeExpr.RoundTrip
import ChannelGraph.Proofs.TypeExpr.Printing
import ChannelGraph.Proofs.Inference.Renaming
import ChannelGraph.Proofs.Inference.Texts
import ChannelGraph.Proofs.Graph.Reloading
import ChannelGraph.Proofs.Inference.Duration
import ChannelGraph.Proofs.Bindings.Recursion
import ChannelGraph.Proofs.Inference.Separation
import ChannelGraph.Proofs.Inference.Locality
import ChannelGraph.Proofs.Inference.StaleCaches
import ChannelGraph.Proofs.Settings.Checking
import ChannelGraph.Proofs.Command.Arguments
