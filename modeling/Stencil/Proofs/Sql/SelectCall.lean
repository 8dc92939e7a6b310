/-
The functions that select lists call.

An item of a select list calls a function if it is the call itself, be it in
parentheses.  A call further inside, as of `f` in `1 + f(x)`, does not count: what the
item is made of then says its type, and nothing folds groups of rows.  The calls are
collected from every query that rows are drawn from; queries inside expressions are
left out, as they are when a statement is planned.
-/
import Stencil.Sql.Statement

namespace Stencil.Sql

/-- The function that an expression is a call of. -/
def Expr.call? : Expr → Option QualifiedName
  | .call function _ _ => some function
  | .nested inner => inner.call?
  | _ => none

def SelectItem.call? : SelectItem → Option QualifiedName
  | .expr e | .aliased e _ => e.call?
  | .wildcard _ | .qualifiedWildcard _ _ => none

mutual

/-- The functions that the select lists of a query call. -/
def Query.calls : Query → List QualifiedName
  | ⟨_, ctes, body, _, _, _, _, _, _, _, _⟩ => callsOfCtes ctes ++ body.calls

def callsOfCtes : List Cte → List QualifiedName
  | [] => []
  | ⟨_, query, _⟩ :: rest => query.calls ++ callsOfCtes rest

def Body.calls : Body → List QualifiedName
  | .select s => s.calls
  | .query q => q.calls
  | .setOperation _ _ left right => left.calls ++ right.calls
  | .values _ _ | .other _ => []

def Select.calls : Select → List QualifiedName
  | ⟨_, _, _, projection, _, sources, _, _, _, _, _, _⟩ =>
    projection.filterMap SelectItem.call? ++ callsOfSources sources

def callsOfSources : List From → List QualifiedName
  | [] => []
  | item :: rest => item.calls ++ callsOfSources rest

def From.calls : From → List QualifiedName
  | ⟨factor, joins⟩ => factor.calls ++ callsOfJoins joins

def callsOfJoins : List Join → List QualifiedName
  | [] => []
  | ⟨_, _, factor, _, _⟩ :: rest => factor.calls ++ callsOfJoins rest

def Factor.calls : Factor → List QualifiedName
  | .table .. | .other .. => []
  | .derived _ query _ => query.calls
  | .nested inner _ => inner.calls

end

/-- The functions that the select lists of a statement call, or of what it explains. -/
def Statement.calls : Statement → List QualifiedName
  | .query q => q.calls
  | .insert i =>
    match i.source with
    | some q => q.calls
    | none => []
  | .explain _ inner => inner.calls
  | _ => []

end Stencil.Sql
