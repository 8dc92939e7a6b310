/-
Plans: trees of relational operators with the fields that each yields.

A plan is only ever described, drawn and turned into a graph.  What an operator
asks of the distribution of its input, and whether it may take back rows, is read
off the operator alone.
-/
import Stencil.Catalog.Object

namespace Stencil

/-- A field that an operator yields, with the name of the relation it is visible under. -/
structure Field where
  qualifier : Option String
  name : String
  dataType : String
deriving DecidableEq, Repr

/-- The field as a column of a result. -/
def Field.column (f : Field) : Column := ⟨f.name, f.dataType⟩

/-- The fields seen through one name. -/
def Field.requalified (qualifier : String) (f : Field) : Field :=
  { f with qualifier := some qualifier }

/-- The field outside of any relation. -/
def Field.unqualified (f : Field) : Field := { f with qualifier := none }

namespace Plan

/-- Which rows without a partner a join keeps. -/
inductive JoinMode where
  | inner
  | left
  | right
  | full
deriving DecidableEq, Repr

/-- How two sets of rows are combined. -/
inductive Combination where
  | union
  | intersect
  | minus
deriving DecidableEq, Repr

/-- What a node of a plan does; expressions are kept as they are written. -/
inductive Operator where
  /-- Writes rows into the fields of a table. -/
  | sink (path : ObjectPath) (fields : List String)
  /-- Computes named expressions. -/
  | project (items : List (String × String))
  | filter (condition : String)
  /-- Folds groups of rows by named calls. -/
  | aggregate (keys : List String) (calls : List (String × String))
  | join (mode : JoinMode) (condition : Option String)
  /-- Combines two sets of rows; `all` keeps rows that occur several times. -/
  | combine (how : Combination) (all : Bool)
  | sort (keys : List String) (offset limit : Option String)
  | values (tuples : List (List String))
  | scan (path : ObjectPath)
deriving DecidableEq, Repr

/-- How rows move into an operator. -/
inductive Distribution where
  | forward
  | hash
  | global
deriving DecidableEq, Repr

/-- The distribution an operator asks of its inputs. -/
def Operator.distribution : Operator → Distribution
  | aggregate [] _ => .global
  | aggregate (_ :: _) _ => .hash
  | join _ (some _) => .hash
  | join _ none => .global
  | sort .. => .global
  | _ => .forward

/-- The operator by itself may take back rows that it has yielded. -/
def Operator.updates : Operator → Bool
  | aggregate .. => true
  | combine _ all => !all
  | join mode _ => mode != .inner
  | _ => false

end Plan

/-- An operator with its inputs and the fields it yields. -/
structure Plan where
  operator : Plan.Operator
  inputs : List Plan
  fields : List Field

namespace Plan

/-- The columns of the result. -/
def columns (p : Plan) : List Column := p.fields.map Field.column

/-- An operator that yields the fields of its only input. -/
def above (p : Plan) (op : Operator) : Plan := ⟨op, [p], p.fields⟩

/-- The plan with its fields seen through one name. -/
def requalified (p : Plan) (qualifier : String) : Plan :=
  { p with fields := p.fields.map (Field.requalified qualifier) }

mutual

/-- Some operator of the plan may take back rows. -/
def updates : Plan → Bool
  | ⟨op, inputs, _⟩ => op.updates || anyUpdates inputs

/-- Some operator of the plans may take back rows. -/
def anyUpdates : List Plan → Bool
  | [] => false
  | p :: rest => p.updates || anyUpdates rest

end

end Plan
end Stencil
