/-
Descriptions of operators.

An operator is described by a head and named attributes in parentheses.  The
logical description says what is computed; the physical one says how, and may
carry the kinds of changes that reach the operator's output and an estimate.
-/
import Stencil.Decimal.Scientific
import Stencil.Plan.Estimate

namespace Stencil.Plan

/-- A head with named attributes. -/
structure Description where
  head : String
  attributes : List (String × String)
deriving DecidableEq, Repr

namespace Description

/-- The attributes with commas in between, each value in brackets. -/
def writtenAttributes (attributes : List (String × String)) : String :=
  Text.join ", " (attributes.map fun (name, value) => name ++ "=[" ++ value ++ "]")

def written (d : Description) : String := d.head ++ "(" ++ writtenAttributes d.attributes ++ ")"

/-- The description with one more attribute at its end. -/
def add (d : Description) (name value : String) : Description :=
  { d with attributes := d.attributes ++ [(name, value)] }

end Description

/-! ### Parts of descriptions -/

/-- Texts with commas in between. -/
def commas (texts : List String) : String := Text.join ", " texts

/-- The name of a join in the logical plan. -/
def JoinMode.name : JoinMode → String
  | inner => "inner"
  | left => "left"
  | right => "right"
  | full => "full"

/-- The name of a join in the physical plan. -/
def JoinMode.title : JoinMode → String
  | inner => "InnerJoin"
  | left => "LeftJoin"
  | right => "RightJoin"
  | full => "FullJoin"

def Combination.name : Combination → String
  | union => "Union"
  | intersect => "Intersect"
  | minus => "Minus"

/-- A truth value as attributes show it. -/
def flag (b : Bool) : String := if b then "true" else "false"

/-- Rows of values, each between braces. -/
def writtenTuples (tuples : List (List String)) : String :=
  commas (tuples.map fun row => "\x7b " ++ commas row ++ " \x7d")

/-- The parts of a path between brackets. -/
def writtenPath (path : ObjectPath) : String :=
  "[" ++ commas path.parts ++ "]"

/-- An attribute that may be missing. -/
def optional (name : String) : Option String → List (String × String)
  | some value => [(name, value)]
  | none => []

/-- An expression under a name. -/
def aliased (item : String × String) : String := item.2 ++ " AS " ++ item.1

/-- An expression under a name, or the name alone where they are the same. -/
def selected (item : String × String) : String :=
  if item.1 == item.2 then item.1 else aliased item

/-! ### Descriptions -/

/-- What an operator computes. -/
def Operator.logical : Operator → Description
  | sink path fields => ⟨"LogicalSink", [("table", path.written), ("fields", commas fields)]⟩
  | project items => ⟨"LogicalProject", items⟩
  | filter condition => ⟨"LogicalFilter", [("condition", condition)]⟩
  | aggregate keys calls =>
    ⟨"LogicalAggregate", ("group", "\x7b" ++ commas keys ++ "\x7d") :: calls⟩
  | join mode condition =>
    ⟨"LogicalJoin", [("condition", condition.getD "true"), ("joinType", mode.name)]⟩
  | combine how all => ⟨"Logical" ++ how.name, [("all", flag all)]⟩
  | sort keys offset limit =>
    ⟨"LogicalSort", (if keys.isEmpty then [] else [("sort", commas keys)])
      ++ optional "offset" offset ++ optional "fetch" limit⟩
  | values tuples => ⟨"LogicalValues", [("tuples", writtenTuples tuples)]⟩
  | scan path => ⟨"LogicalTableScan", [("table", writtenPath path)]⟩

/-- How an operator that yields the given fields computes them. -/
def Operator.physical (fields : List String) : Operator → Description
  | sink path targets => ⟨"Sink", [("table", path.written), ("fields", commas targets)]⟩
  | project items => ⟨"Calc", [("select", commas (items.map selected))]⟩
  | filter condition => ⟨"Calc", [("where", condition)]⟩
  | aggregate keys calls =>
    ⟨"GroupAggregate", (if keys.isEmpty then [] else [("groupBy", commas keys)])
      ++ [("select", commas (keys ++ calls.map aliased))]⟩
  | join mode condition =>
    ⟨"Join", [("joinType", mode.title), ("where", condition.getD "true"),
      ("select", commas fields)]⟩
  | combine how all => ⟨how.name, [("all", flag all), ("union", commas fields)]⟩
  | sort [] offset (some limit) => ⟨"Limit", [("offset", offset.getD "0"), ("fetch", limit)]⟩
  | sort keys offset (some limit) =>
    ⟨"SortLimit", [("orderBy", commas keys), ("offset", offset.getD "0"), ("fetch", limit)]⟩
  | sort keys offset none => ⟨"Sort", [("orderBy", commas keys), ("offset", offset.getD "0")]⟩
  | values tuples => ⟨"Values", [("tuples", writtenTuples tuples)]⟩
  | scan path =>
    ⟨"TableSourceScan", [("table", writtenPath path), ("fields", commas fields)]⟩

/-- What the plan computes at its root. -/
def logical (p : Plan) : Description := p.operator.logical

/-- How the plan computes its root. -/
def physical (p : Plan) : Description := p.operator.physical (p.fields.map (·.name))

/-! ### Details -/

/-- What may be added to the physical description. -/
inductive Detail where
  | estimatedCost
  | changelogMode
  | jsonExecutionPlan
deriving DecidableEq, Repr

namespace Detail

/-- The detail in capitals. -/
def title : Detail → String
  | estimatedCost => "ESTIMATED_COST"
  | changelogMode => "CHANGELOG_MODE"
  | jsonExecutionPlan => "JSON_EXECUTION_PLAN"

/-- The name of the detail. -/
def name : Detail → String
  | estimatedCost => "EstimatedCost"
  | changelogMode => "ChangelogMode"
  | jsonExecutionPlan => "JsonExecutionPlan"

end Detail

/-- The kinds of changes in the output of a plan: insertions, or updates as well. -/
def changes (p : Plan) : String := if p.updates then "I,UB,UA" else "I"

/-- The estimate behind a description. -/
def estimate (p : Plan) : String :=
  ": rowcount = " ++ p.rows.scientific ++ ", cumulative cost = \x7b" ++ p.cost.scientific
    ++ " rows\x7d"

/-- The physical description with the details asked for. -/
def detailed (details : List Detail) (p : Plan) : String :=
  let d := p.physical
  let d := if details.contains .changelogMode then d.add "changelogMode" p.changes else d
  d.written ++ (if details.contains .estimatedCost then p.estimate else "")

end Stencil.Plan
