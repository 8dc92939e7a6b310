import Stencil.Main
import Stencil.Engine.Recording
import Stencil.Proofs.Fragment.Statement
import Stencil.Proofs.Fragment.Reference
import Stencil.Proofs.Fragment.Rejoin
import Stencil.Proofs.Fragment.Submission
import Stencil.Proofs.Keyed
import Stencil.Proofs.Run
import Stencil.Proofs.Engine.Failure
import Stencil.Proofs.Engine.Operation
import Stencil.Proofs.Environment.Submission
import Stencil.Proofs.Environment.Script
import Stencil.Proofs.Plan.Resolution
import Stencil.Proofs.Sql.Explanation
import Stencil.Proofs.Engine.Resolution
import Stencil.Proofs.Fragment.Definition
import Stencil.Proofs.Fragment.Filler
import Stencil.Proofs.Fragment.Reachable
import Stencil.Proofs.Fragment.InForce
import Stencil.Proofs.Fragment.Sequence
import Stencil.Proofs.Engine.Observed
import Stencil.Proofs.Environment.Entry
import Stencil.Proofs.Plan.Nodes
import Stencil.Proofs.Graph.Forest
import Stencil.Proofs.Plan.Shape
import Stencil.Proofs.Engine.Shape
import Stencil.Proofs.Sql.Inlining
import Stencil.Proofs.Plan.Inlining
import Stencil.Proofs.Catalog.Change
import Stencil.Proofs.Sql.SelectCall
import Stencil.Proofs.Plan.Independence
import Stencil.Proofs.Script.Statements
import Stencil.Proofs.Environment.Document
import Stencil.Proofs.Sql.Cuts
import Stencil.Proofs.Environment.Completion
import Stencil.Proofs.Keyed.Order
import Stencil.Proofs.Catalog.History
import Stencil.Proofs.Environment.Reports
import Stencil.Proofs.Environment.Explanation
import Stencil.Proofs.Settings
import Stencil.Proofs.Engine.Constant
import Stencil.Proofs.Environment.Later
import Stencil.Proofs.Engine.Footprint
import Stencil.Proofs.Plan.Folding
import Stencil.Proofs.Fragment.FirstSign
import Stencil.Proofs.Fragment.Confined
import Stencil.Proofs.Fragment.Expansion
import Stencil.Proofs.Fragment.Naming
import Stencil.Proofs.Fragment.Commuting
import Stencil.Proofs.Plan.Reference
import Stencil.Proofs.Plan.Clauses
import Stencil.Proofs.Engine.Joins
import Stencil.Proofs.Plan.Selection
import Stencil.Proofs.Plan.Targets
import Stencil.Proofs.Sql.RowLists
import Stencil.Proofs.Plan.RowLists
import Stencil.Proofs.Sql.Keys
import Stencil.Proofs.Plan.Keys
import Stencil.Proofs.Plan.Columns
import Stencil.Proofs.Engine.Views
import Stencil.Proofs.Sql.Heeded
import Stencil.Proofs.Plan.Heeded
import Stencil.Proofs.Engine.ColumnLists
import Stencil.Proofs.Sql.Stages
import Stencil.Proofs.Plan.RowLimits
import Stencil.Proofs.Graph.Forwarding
import Stencil.Proofs.Engine.Hints
import Stencil.Proofs.Plan.Drawing
import Stencil.Proofs.Environment.Details
import Stencil.Proofs.Table.Listing
import Stencil.Proofs.Script.Submissions
import Stencil.Proofs.Settings.Override
import Stencil.Proofs.Fragment.Complete
import Stencil.Proofs.Fragment.Lead
