/-
Engines: what stands behind an environment.

An engine reads statements into operations and explains, runs or translates
them.  It has a state of its own, which every call may change.
-/
import Stencil.Catalog.Object
import Stencil.Plan.Description
import Stencil.Run
import Stencil.Table.Result

namespace Stencil

/-- What an operation does: write rows, yield rows, explain, or anything else. -/
inductive OperationKind where
  | modify
  | query
  | explain
  | other
deriving DecidableEq, Repr

/-- The name of a kind. -/
def OperationKind.name : OperationKind → String
  | modify => "Modify"
  | query => "Query"
  | explain => "Explain"
  | other => "Other"

/-- An engine with states of type `σ`. -/
structure Engine (σ : Type) where
  /-- Statements that have been read. -/
  Operation : Type
  /-- Parts of translated operations. -/
  Step : Type
  kind : Operation → OperationKind
  /-- An operation in words. -/
  summary : Operation → String
  /-- Reads statements without running them. -/
  parse : String → Run σ (List Operation)
  /-- Explains the only statement of a text. -/
  explainText : String → List Plan.Detail → Run σ String
  /-- Explains operations. -/
  explain : List Operation → List Plan.Detail → Run σ String
  /-- What the word that ends at a position in a text may go on to. -/
  hints : String → Nat → Run σ (List String)
  /-- The relation that a query stands for. -/
  query : String → Run σ Relation
  /-- Runs the only statement of a text. -/
  execute : String → Run σ TableResult
  /-- Runs the only statement of a text, which must not be a query. -/
  update : String → Run σ Unit
  registerFunction : UserFunction → Run σ Unit
  translate : List Operation → Run σ (List Step)
  /-- The graph of translated operations as a document; `none` if the engine has no graphs. -/
  graph : List Step → Run σ (Option String)

end Stencil
