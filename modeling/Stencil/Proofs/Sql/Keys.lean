/-
Statements without keys.

A query is grouped and ordered by keys.  Here they are taken out of a statement, wherever a
FROM clause leads to: out of named queries, out of both sides of a set operation, and out of
derived tables and what is joined to them.  All other clauses stay as they are, and so do the
queries inside expressions.
-/
import Stencil.Sql.Statement

namespace Stencil.Sql

mutual

/-- The query without ORDER BY, and without any GROUP BY or ORDER BY in what it draws on. -/
def Query.keyless : Query → Query
  | ⟨recursive, ctes, body, _, interpolation, limit, offset, offsetUnit, limitTail, fetch, tail⟩ =>
    ⟨recursive, keylessCtes ctes, body.keyless, [], interpolation, limit, offset, offsetUnit,
      limitTail, fetch, tail⟩

def keylessCtes : List Cte → List Cte
  | [] => []
  | ⟨label, query, source⟩ :: rest => ⟨label, query.keyless, source⟩ :: keylessCtes rest

def Body.keyless : Body → Body
  | .select s => .select s.keyless
  | .query q => .query q.keyless
  | .setOperation op quantifier left right =>
    .setOperation op quantifier left.keyless right.keyless
  | .values explicitRow rows => .values explicitRow rows
  | .other pieces => .other pieces

/-- The selection without GROUP BY. -/
def Select.keyless : Select → Select
  | ⟨distinct, distinctOn, top, projection, into, sources, views, selection, _, clustering, having,
      tail⟩ =>
    ⟨distinct, distinctOn, top, projection, into, keylessSources sources, views, selection,
      .keys [] "", clustering, having, tail⟩

def keylessSources : List From → List From
  | [] => []
  | item :: rest => item.keyless :: keylessSources rest

def From.keyless : From → From
  | ⟨factor, joins⟩ => ⟨factor.keyless, keylessJoins joins⟩

def keylessJoins : List Join → List Join
  | [] => []
  | ⟨global, kind, factor, matching, constraint⟩ :: rest =>
    ⟨global, kind, factor.keyless, matching, constraint⟩ :: keylessJoins rest

def Factor.keyless : Factor → Factor
  | .table name arguments label hints => .table name arguments label hints
  | .derived lateral query label => .derived lateral query.keyless label
  | .nested inner label => .nested inner.keyless label
  | .other pieces label tail => .other pieces label tail

end

/-- The statement with its query, or that of the insertion, without keys. -/
def Statement.keyless : Statement → Statement
  | .query q => .query q.keyless
  | .insert i => .insert { i with source := i.source.map Query.keyless }
  | s => s

/-! ### Other keys -/

/-- The selection grouped by these keys. -/
def Select.groupedBy (s : Select) (keys : List Expr) (modifiers : String) : Select :=
  { s with grouping := .keys keys modifiers }

/-- The query ordered by these keys. -/
def Query.orderedBy (q : Query) (keys : List OrderKey) : Query := { q with order := keys }

/-- The selection with one more item behind its select list. -/
def Select.alsoSelecting (s : Select) (e : Expr) : Select :=
  { s with projection := s.projection ++ [.expr e] }

theorem Select.keyless_groupedBy (s : Select) (keys : List Expr) (modifiers : String) :
    (s.groupedBy keys modifiers).keyless = s.keyless := by
  cases s
  rw [Select.groupedBy, Select.keyless, Select.keyless]

theorem Query.keyless_orderedBy (q : Query) (keys : List OrderKey) :
    (q.orderedBy keys).keyless = q.keyless := by
  cases q
  rw [Query.orderedBy, Query.keyless, Query.keyless]

end Stencil.Sql
