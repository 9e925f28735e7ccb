import Planwright.Calculation
import Planwright.Capability.Basic
import Planwright.Capability.Catalog
import Planwright.Capability.Trigger
import Planwright.Context
import Planwright.Dict
import Planwright.Double.Binary
import Planwright.Double.Fixed
import Planwright.Double.Reading
import Planwright.Double.Shortest
import Planwright.Elapsed
import Planwright.Engine
import Planwright.Execution.Call
import Planwright.Execution.Perform
import Planwright.Execution.Run
import Planwright.Execution.Several
import Planwright.Execution.Surroundings
import Planwright.Execution.World
import Planwright.Expr.Basic
import Planwright.Expr.Eval
import Planwright.Expr.Lexer
import Planwright.Expr.Parser
import Planwright.Failure
import Planwright.Instruction.Basic
import Planwright.Instruction.Decode
import Planwright.Intent
import Planwright.Outcome
import Planwright.Pattern.Basic
import Planwright.Pattern.Bracket
import Planwright.Pattern.CategoryTable
import Planwright.Pattern.CharSet
import Planwright.Pattern.Escape
import Planwright.Pattern.Flags
import Planwright.Pattern.FoldTable
import Planwright.Pattern.Matcher
import Planwright.Pattern.Parser
import Planwright.Pattern.Property
import Planwright.Pattern.PropertyTable
import Planwright.Pattern.ScriptTable
import Planwright.Planning.Instantiate
import Planwright.Planning.PlanTable
import Planwright.Planning.Synthesis
import Planwright.Proofs.Capability.Consistency
import Planwright.Proofs.Capability.Matching
import Planwright.Proofs.Capability.Naming
import Planwright.Proofs.Capability.Operations
import Planwright.Proofs.Capability.Stepwise
import Planwright.Proofs.Capability.Undoing
import Planwright.Proofs.Context.Resolving
import Planwright.Proofs.Context.Spellings
import Planwright.Proofs.Context.Visibility
import Planwright.Proofs.Correspondence
import Planwright.Proofs.Double.Finite
import Planwright.Proofs.Double.Nearest
import Planwright.Proofs.Double.NonFinite
import Planwright.Proofs.Double.Order
import Planwright.Proofs.Double.Packing
import Planwright.Proofs.Double.Places
import Planwright.Proofs.Double.Rank
import Planwright.Proofs.Double.Rounding
import Planwright.Proofs.Double.Values
import Planwright.Proofs.Execution.Accounting
import Planwright.Proofs.Execution.Addressing
import Planwright.Proofs.Execution.Answering
import Planwright.Proofs.Execution.Batch
import Planwright.Proofs.Execution.Begun
import Planwright.Proofs.Execution.Duration
import Planwright.Proofs.Execution.Fallback
import Planwright.Proofs.Execution.FanOut
import Planwright.Proofs.Execution.History
import Planwright.Proofs.Execution.Joining
import Planwright.Proofs.Execution.Outline
import Planwright.Proofs.Execution.Place
import Planwright.Proofs.Execution.Precautions
import Planwright.Proofs.Execution.Refusal
import Planwright.Proofs.Execution.Returning
import Planwright.Proofs.Execution.Trace
import Planwright.Proofs.Execution.Traffic
import Planwright.Proofs.Execution.Writes
import Planwright.Proofs.Expr.Grammar
import Planwright.Proofs.Expr.Recognition
import Planwright.Proofs.Expr.Variables
import Planwright.Proofs.FallbackOrder
import Planwright.Proofs.Fallible
import Planwright.Proofs.FirstBest
import Planwright.Proofs.Handling
import Planwright.Proofs.Instruction.Actions
import Planwright.Proofs.Instruction.Admission
import Planwright.Proofs.Instruction.Nesting
import Planwright.Proofs.Numbers
import Planwright.Proofs.Planning.Conditions
import Planwright.Proofs.Planning.Copying
import Planwright.Proofs.Planning.Escalation
import Planwright.Proofs.Planning.Table
import Planwright.Proofs.Planning.Verbatim
import Planwright.Proofs.Provider.Address
import Planwright.Proofs.Provider.Budget
import Planwright.Proofs.Provider.Filling
import Planwright.Proofs.Provider.LateAdmission
import Planwright.Proofs.Provider.Lookup
import Planwright.Proofs.Provider.Pricing
import Planwright.Proofs.Provider.Scoring
import Planwright.Proofs.Provider.Selection
import Planwright.Proofs.Rereading.Outcomes
import Planwright.Proofs.Rereading.Recipes
import Planwright.Proofs.Retrying
import Planwright.Proofs.Template.Amounts
import Planwright.Proofs.Template.Canonical
import Planwright.Proofs.Template.Resolved
import Planwright.Proofs.Template.Restating
import Planwright.Proofs.Template.Staging
import Planwright.Proofs.Template.Tokens
import Planwright.Proofs.Template.Writing
import Planwright.Proofs.Text.Lowering
import Planwright.Proofs.Text.Percent
import Planwright.Proofs.Value.Fields
import Planwright.Proofs.Value.Sorted
import Planwright.Proofs.Value.Texts
import Planwright.Proofs.Value.Written
import Planwright.Provider.Cost
import Planwright.Provider.Entry
import Planwright.Provider.Manifest
import Planwright.Provider.Registry
import Planwright.Provider.Request
import Planwright.Provider.Response
import Planwright.Provider.Window
import Planwright.Recipe
import Planwright.Scripted
import Planwright.Template.Basic
import Planwright.Template.Filter
import Planwright.Template.Render
import Planwright.Text.Blank
import Planwright.Text.Bytes
import Planwright.Text.Case
import Planwright.Text.CaseTable
import Planwright.Text.CodeRange
import Planwright.Text.Search
import Planwright.Timestamp
import Planwright.Trace
import Planwright.Transform
import Planwright.Value.Basic
import Planwright.Value.Reader
import Planwright.Value.Shape
import Planwright.Value.Text
import Planwright.Value.View
