/-
The lists of rows that a query draws on.

Rows come out of tables and out of lists that are written out.  A list is drawn on where it
stands, and if it stands in a named query, then wherever the name means that query; a named
query that nothing refers to is not drawn on.  What is collected stands in the order in which
the query is written, the lists of a named query at each of its references.
-/
import Stencil.Keyed
import Stencil.Sql.Statement
import Stencil.Text.Case

namespace Stencil.Sql

/-- Rows that are written out. -/
abbrev Rows := List (List Expr)

/-- The lists that the queries in scope draw on, by their names in lower case. -/
abbrev RowScope := Keyed String (List Rows)

/-- The row that a selection without sources draws on. -/
def zeroRow : Rows := [[.literal (.number "0" false)]]

/-- The lists behind a name in a FROM clause; tables and views have none. -/
def rowListsOfName (scope : RowScope) : QualifiedName → List Rows
  | [n] => (scope.find? (Text.lower n.text)).getD []
  | _ => []

mutual

/-- The lists of rows that a query draws on. -/
def Query.rowLists (scope : RowScope) : Query → List Rows
  | ⟨_, ctes, body, _, _, _, _, _, _, _, _⟩ => body.rowLists (rowScope scope ctes)

/-- The scope with further named queries, each seen by those behind it. -/
def rowScope (scope : RowScope) : List Cte → RowScope
  | [] => scope
  | ⟨label, query, _⟩ :: rest =>
    rowScope (scope.put (Text.lower label.name.text) (query.rowLists scope)) rest

def Body.rowLists (scope : RowScope) : Body → List Rows
  | .select s => s.rowLists scope
  | .query q => q.rowLists scope
  | .setOperation _ _ left right => left.rowLists scope ++ right.rowLists scope
  | .values _ rows => [rows]
  | .other _ => []

def Select.rowLists (scope : RowScope) : Select → List Rows
  | ⟨_, _, _, _, _, sources, _, _, _, _, _, _⟩ =>
    (if sources.isEmpty then [zeroRow] else []) ++ rowListsOfSources scope sources

def rowListsOfSources (scope : RowScope) : List From → List Rows
  | [] => []
  | item :: rest => item.rowLists scope ++ rowListsOfSources scope rest

def From.rowLists (scope : RowScope) : From → List Rows
  | ⟨factor, joins⟩ => factor.rowLists scope ++ rowListsOfJoins scope joins

def rowListsOfJoins (scope : RowScope) : List Join → List Rows
  | [] => []
  | ⟨_, _, factor, _, _⟩ :: rest => factor.rowLists scope ++ rowListsOfJoins scope rest

def Factor.rowLists (scope : RowScope) : Factor → List Rows
  | .table name _ _ _ => rowListsOfName scope name
  | .derived _ query _ => query.rowLists scope
  | .nested inner _ => inner.rowLists scope
  | .other .. => []

end

/-- The lists of rows that a query draws on, or the query of an insertion. -/
def Statement.rowLists : Statement → List Rows
  | .query q => q.rowLists []
  | .insert i =>
    match i.source with
    | some q => q.rowLists []
    | none => []
  | _ => []

end Stencil.Sql
