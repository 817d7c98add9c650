import Formulary.Text.Blank
import Formulary.Text.Fold
import Formulary.Text.Quoted
import Formulary.Number.Binary64.Basic
import Formulary.Number.Binary64.Pattern
import Formulary.Number.Fixed.Instance
import Formulary.Locale
import Formulary.Expr.Depth
import Formulary.Expr.Text
import Formulary.Bindings
import Formulary.Function.Builtin
import Formulary.Evaluation.Fold
import Formulary.Formula
import Formulary.Parser.Basic
import Formulary.Engine
import Formulary.Proofs.Number.Legible
import Formulary.Proofs.Number.Parts
import Formulary.Proofs.Number.Printed
import Formulary.Proofs.Expr.Key
import Formulary.Proofs.Evaluation.Closure
import Formulary.Proofs.Expr.Nodes
import Formulary.Proofs.Program.Lowering
import Formulary.Proofs.Program.Pools
import Formulary.Proofs.Program.Simulation
import Formulary.Proofs.Program.Checked
import Formulary.Proofs.Program.Stack
import Formulary.Proofs.Formula.Backends
import Formulary.Proofs.Evaluation.Fold
import Formulary.Proofs.Evaluation.NormalForm
import Formulary.Proofs.Evaluation.Rewrites
import Formulary.Proofs.Formula.Execution
import Formulary.Proofs.Formula.Errors
import Formulary.Proofs.Formula.Folding
import Formulary.Proofs.Parser.Acceptance
import Formulary.Proofs.Parser.RoundTrip
import Formulary.Proofs.Cache.Serve
import Formulary.Proofs.Cache.Slots
import Formulary.Proofs.Cache.Script
import Formulary.Proofs.Cache.Accounting
import Formulary.Proofs.Cache.Failure
import Formulary.Proofs.Cache.Threads
import Formulary.Proofs.Cache.SingleFlight
import Formulary.Proofs.Cache.Recency
import Formulary.Proofs.Engine.Fresh
import Formulary.Proofs.Engine.Session
import Formulary.Proofs.Function.Registration
import Formulary.Proofs.Engine.Registration
import Formulary.Proofs.Parser.Grammar
import Formulary.Proofs.Parser.Reader
import Formulary.Proofs.Parser.Soundness
import Formulary.Proofs.Parser.Literal
import Formulary.Proofs.Parser.Completeness
import Formulary.Proofs.Number.Canonical
import Formulary.Proofs.Number.Decimal
import Formulary.Proofs.Number.Displayed
import Formulary.Proofs.Parser.DisplayedNumber
import Formulary.Proofs.Text.Fold
import Formulary.Proofs.NameMap
import Formulary.Proofs.Bindings.Variables
import Formulary.Proofs.Formula.Scope
import Formulary.Proofs.Parser.WellFormed
import Formulary.Proofs.Engine.Inlining
import Formulary.Proofs.Number.Symmetric
import Formulary.Proofs.Parser.Signs
import Formulary.Proofs.Number.Exact
import Formulary.Proofs.Number.Whole
import Formulary.Proofs.Locale.Written
import Formulary.Proofs.Parser.LocalizedNumber
import Formulary.Proofs.Program.Variables
import Formulary.Proofs.Parser.Bytes
import Formulary.Proofs.Parser.Cursor
import Formulary.Proofs.Parser.Tracking
import Formulary.Proofs.Parser.Scanning
import Formulary.Proofs.Parser.Operands
import Formulary.Proofs.Parser.Positions
import Formulary.Proofs.Text.Titlecase
import Formulary.Proofs.Expr.Search
import Formulary.Proofs.Formula.Names
import Formulary.Proofs.Number.Machine
import Formulary.Proofs.Number.Headroom
