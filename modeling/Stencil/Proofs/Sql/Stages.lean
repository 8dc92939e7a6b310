/-
The stages of a statement.

A statement draws its rows through queries, and each of them is a stage of its own: it may put its
rows in order and cut them to size before they go on.  A named query is a stage at each place that
refers to it, and none if there is no such place.  The stages stand in the order in which the rows
reach them, a query behind all that it draws on.
-/
import Stencil.Keyed
import Stencil.Sql.Statement
import Stencil.Text.Case

namespace Stencil.Sql

/-- The stages of the queries in scope, by their names in lower case. -/
abbrev StageScope := Keyed String (List Query)

/-- The stages behind a name in a FROM clause; tables and views have none. -/
def stagesOfName (scope : StageScope) : QualifiedName → List Query
  | [n] => (scope.find? (Text.lower n.text)).getD []
  | _ => []

mutual

/-- The stages of a query, of which it is the last. -/
def Query.stages (scope : StageScope) : Query → List Query
  | ⟨recursive, ctes, body, order, interpolation, limit, offset, offsetUnit, limitTail, fetch,
      tail⟩ =>
    body.stages (stageScope scope ctes)
      ++ [⟨recursive, ctes, body, order, interpolation, limit, offset, offsetUnit, limitTail, fetch,
        tail⟩]

/-- The scope with further named queries, each seen by those behind it. -/
def stageScope (scope : StageScope) : List Cte → StageScope
  | [] => scope
  | ⟨label, query, _⟩ :: rest =>
    stageScope (scope.put (Text.lower label.name.text) (query.stages scope)) rest

def Body.stages (scope : StageScope) : Body → List Query
  | .select s => s.stages scope
  | .query q => q.stages scope
  | .setOperation _ _ left right => left.stages scope ++ right.stages scope
  | .values _ _ => []
  | .other _ => []

def Select.stages (scope : StageScope) : Select → List Query
  | ⟨_, _, _, _, _, sources, _, _, _, _, _, _⟩ => stagesOfSources scope sources

def stagesOfSources (scope : StageScope) : List From → List Query
  | [] => []
  | item :: rest => item.stages scope ++ stagesOfSources scope rest

def From.stages (scope : StageScope) : From → List Query
  | ⟨factor, joins⟩ => factor.stages scope ++ stagesOfJoins scope joins

def stagesOfJoins (scope : StageScope) : List Join → List Query
  | [] => []
  | ⟨_, _, factor, _, _⟩ :: rest => factor.stages scope ++ stagesOfJoins scope rest

def Factor.stages (scope : StageScope) : Factor → List Query
  | .table name _ _ _ => stagesOfName scope name
  | .derived _ query _ => query.stages scope
  | .nested inner _ => inner.stages scope
  | .other .. => []

end

/-- The stages of a query, or of the query of an insertion. -/
def Statement.stages : Statement → List Query
  | .query q => q.stages []
  | .insert i =>
    match i.source with
    | some q => q.stages []
    | none => []
  | _ => []

/-! ### Row limits -/

/-- The number of rows that a clause fetches, unless it is a share of them or goes by their
keys. -/
def Fetch.rows? (f : Fetch) : Option Expr :=
  if f.percent || f.withTies then none else f.quantity

/-- The number of rows that a query is limited to, by LIMIT or by FETCH. -/
def Query.rowLimit? (q : Query) : Option Expr :=
  q.limit <|> q.fetch.bind Fetch.rows?

/-- The query with a number of rows to be fetched. -/
def Query.fetching (q : Query) (rows : Expr) : Query :=
  { q with fetch := some ⟨some rows, false, false⟩ }

/-- The query with a limit of rows. -/
def Query.limitedTo (q : Query) (rows : Expr) : Query := { q with limit := some rows }

end Stencil.Sql
