/-
Statements without what planning passes over.

A tree keeps all that a statement says, but not all of it bears on rows and columns.  Here every
clause that planning passes over is taken out of a statement, wherever a FROM clause leads to: out
of named queries, out of both sides of a set operation, and out of derived tables and what is
joined to them.  Among these clauses are the names that a relation is given for its columns, and
the clauses FETCH, TOP and LIMIT BY.
-/
import Stencil.Sql.Statement

namespace Stencil.Sql

/-- The name of the relation, without names for its columns. -/
def Alias.heeded (a : Alias) : Alias := ⟨a.name, []⟩

/-- The key with its direction, and without the place of rows that have no value. -/
def OrderKey.heeded (k : OrderKey) : OrderKey := ⟨k.key, k.ascending, []⟩

def SelectItem.heeded : SelectItem → SelectItem
  | .expr e => .expr e
  | .aliased e label => .aliased e label
  | .wildcard _ => .wildcard []
  | .qualifiedWildcard qualifier _ => .qualifiedWildcard qualifier []

def Grouping.heeded : Grouping → Grouping
  | .all _ => .all ""
  | .keys exprs _ => .keys exprs ""

mutual

/-- The query with its named queries, its body, its keys, LIMIT and OFFSET only. -/
def Query.heeded : Query → Query
  | ⟨_, ctes, body, order, _, limit, offset, _, _, _, _⟩ =>
    ⟨false, heededCtes ctes, body.heeded, order.map OrderKey.heeded, [], limit, offset, "", [],
      none, []⟩

def heededCtes : List Cte → List Cte
  | [] => []
  | ⟨label, query, _⟩ :: rest => ⟨label.heeded, query.heeded, none⟩ :: heededCtes rest

def Body.heeded : Body → Body
  | .select s => .select s.heeded
  | .query q => .query q.heeded
  | .setOperation op quantifier left right =>
    .setOperation op quantifier left.heeded right.heeded
  | .values _ rows => .values false rows
  | .other pieces => .other pieces

def Select.heeded : Select → Select
  | ⟨distinct, _, _, projection, _, sources, _, selection, grouping, _, having, _⟩ =>
    ⟨distinct, [], [], projection.map SelectItem.heeded, "", heededSources sources, [], selection,
      grouping.heeded, [], having, []⟩

def heededSources : List From → List From
  | [] => []
  | item :: rest => item.heeded :: heededSources rest

def From.heeded : From → From
  | ⟨factor, joins⟩ => ⟨factor.heeded, heededJoins joins⟩

def heededJoins : List Join → List Join
  | [] => []
  | ⟨_, kind, factor, _, constraint⟩ :: rest =>
    ⟨false, kind, factor.heeded, [], constraint⟩ :: heededJoins rest

/-- The factor; one that is refused stays as it is, because the error shows it. -/
def Factor.heeded : Factor → Factor
  | .table name _ label _ => .table name [] (label.map Alias.heeded) []
  | .derived _ query label => .derived false query.heeded (label.map Alias.heeded)
  | .nested inner _ => .nested inner.heeded none
  | .other pieces label tail => .other pieces label tail

end

/-- An insertion by its table, its columns and its source. -/
def Insert.heeded (i : Insert) : Insert :=
  ⟨"", i.table, i.columns, [], i.source.map Query.heeded, []⟩

/-- The statement with its query, or its insertion, as planning looks at it. -/
def Statement.heeded : Statement → Statement
  | .query q => .query q.heeded
  | .insert i => .insert i.heeded
  | s => s

end Stencil.Sql
