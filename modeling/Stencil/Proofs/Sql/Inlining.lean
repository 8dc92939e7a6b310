/-
Named queries written out where they are used.

A query that is named in front of another can be put in the place of its name: every
name of one part that means it, in whatever case, becomes the query itself as a
derived table, under the name that the reference was visible by.  Only names in FROM
clauses are written out.  What stands inside expressions and phrases is left as it
is, and so are relations that are phrases themselves.

The other query must not name queries of its own, because one of them could take the
name or be taken for a name of the query put in.
-/
import Stencil.Sql.Tree
import Stencil.Text.Case

namespace Stencil.Sql

/-! ### Queries that name none -/

mutual

/-- No query is named in front of this one, nor of any query that it draws rows from. -/
def Query.withFree : Query → Bool
  | ⟨_, ctes, body, _, _, _, _, _, _, _, _⟩ => ctes.isEmpty && body.withFree

def Body.withFree : Body → Bool
  | .select s => s.withFree
  | .query q => q.withFree
  | .setOperation _ _ left right => left.withFree && right.withFree
  | .values _ _ | .other _ => true

def Select.withFree : Select → Bool
  | ⟨_, _, _, _, _, sources, _, _, _, _, _, _⟩ => withFreeSources sources

def withFreeSources : List From → Bool
  | [] => true
  | item :: rest => item.withFree && withFreeSources rest

def From.withFree : From → Bool
  | ⟨factor, joins⟩ => factor.withFree && withFreeJoins joins

def withFreeJoins : List Join → Bool
  | [] => true
  | ⟨_, _, factor, _, _⟩ :: rest => factor.withFree && withFreeJoins rest

def Factor.withFree : Factor → Bool
  | .table .. | .other .. => true
  | .derived _ query _ => query.withFree
  | .nested inner _ => inner.withFree

end

/-! ### Writing a named query out -/

/-- A name of one part that means the named query, in any case. -/
def Cte.isMeant (cte : Cte) (n : Name) : Bool :=
  Text.lower n.text == Text.lower cte.label.name.text

/-- What a name in a FROM clause becomes: the query that it means, under the name by which the
reference is visible, or else the name itself. -/
def Cte.inPlaceOf (cte : Cte) (name : QualifiedName) (arguments : List Piece)
    (label : Option Alias) (hints : List Piece) : Factor :=
  match name with
  | [n] =>
    if cte.isMeant n then .derived false cte.query (some (label.getD ⟨n, []⟩))
    else .table [n] arguments label hints
  | _ => .table name arguments label hints

mutual

/-- The query with the named query in place of its name. -/
def Query.inlined (cte : Cte) : Query → Query
  | ⟨recursive, ctes, body, order, interpolation, limit, offset, offsetUnit, limitTail, fetch,
      tail⟩ =>
    ⟨recursive, ctes, body.inlined cte, order, interpolation, limit, offset, offsetUnit, limitTail,
      fetch, tail⟩

def Body.inlined (cte : Cte) : Body → Body
  | .select s => .select (s.inlined cte)
  | .query q => .query (q.inlined cte)
  | .setOperation op quantifier left right =>
    .setOperation op quantifier (left.inlined cte) (right.inlined cte)
  | .values explicitRow rows => .values explicitRow rows
  | .other pieces => .other pieces

def Select.inlined (cte : Cte) : Select → Select
  | ⟨distinct, distinctOn, top, projection, into, sources, views, selection, grouping, clustering,
      having, tail⟩ =>
    ⟨distinct, distinctOn, top, projection, into, inlinedSources cte sources, views, selection,
      grouping, clustering, having, tail⟩

def inlinedSources (cte : Cte) : List From → List From
  | [] => []
  | item :: rest => item.inlined cte :: inlinedSources cte rest

def From.inlined (cte : Cte) : From → From
  | ⟨factor, joins⟩ => ⟨factor.inlined cte, inlinedJoins cte joins⟩

def inlinedJoins (cte : Cte) : List Join → List Join
  | [] => []
  | ⟨global, kind, factor, matching, constraint⟩ :: rest =>
    ⟨global, kind, factor.inlined cte, matching, constraint⟩ :: inlinedJoins cte rest

def Factor.inlined (cte : Cte) : Factor → Factor
  | .table name arguments label hints => cte.inPlaceOf name arguments label hints
  | .derived lateral query label => .derived lateral (query.inlined cte) label
  | .nested inner label => .nested (inner.inlined cte) label
  | .other pieces label tail => .other pieces label tail

end

end Stencil.Sql
