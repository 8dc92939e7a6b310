/-
Estimates of rows and costs.

Every table is taken to have the same number of rows.  The cost of a plan is the
number of rows that all its operators yield together.
-/
import Stencil.Decimal.Reader
import Stencil.Plan.Node

namespace Stencil.Plan

open Decimal

/-- The number of rows a table is taken to have. -/
def tableRows : Binary64 := .ofNat 100000000

/-- The part of the rows that a condition lets through. -/
def filterShare : Binary64 := .ofDecimal false 25 (-2)

/-- The number of groups for each row. -/
def groupShare : Binary64 := .ofDecimal false 1 (-1)

/-- The sum of numbers from the first to the last. -/
def total (xs : List Binary64) : Binary64 := xs.foldl .add .zero

/-- The rows that an operator yields, given those of its inputs. -/
def Operator.rows (inputs : List Binary64) : Operator → Binary64
  | scan _ => tableRows
  | values tuples => .ofNat tuples.length
  | filter _ => (inputs.headD .zero).mul filterShare
  | aggregate [] _ => .ofNat 1
  | aggregate (_ :: _) _ => (inputs.headD .zero).mul groupShare
  | join .. => inputs.foldl .larger .zero
  | combine .. => total inputs
  | sort _ _ limit =>
    match limit.bind Binary64.read? with
    | some n => n.smaller (inputs.headD .zero)
    | none => inputs.headD .zero
  | sink .. | project _ => inputs.headD .zero

mutual

/-- The estimated number of rows of a plan. -/
def rows : Plan → Binary64
  | ⟨op, inputs, _⟩ => op.rows (rowsOfEach inputs)

/-- The estimated numbers of rows of several plans. -/
def rowsOfEach : List Plan → List Binary64
  | [] => []
  | p :: rest => p.rows :: rowsOfEach rest

end

mutual

/-- The estimated number of rows of all operators together. -/
def cost : Plan → Binary64
  | ⟨op, inputs, fields⟩ => (rows ⟨op, inputs, fields⟩).add (total (costOfEach inputs))

/-- The costs of several plans. -/
def costOfEach : List Plan → List Binary64
  | [] => []
  | p :: rest => p.cost :: costOfEach rest

end

end Stencil.Plan
