/-
The tables that a statement names.

Every name in a FROM clause is collected, wherever the clause stands, together with
the names of the queries that are in scope there.  A query can stand in the FROM
clause of another, in front of it, or inside an expression; the last is the one case
that planning never looks into, so the collection comes in two extents: with what
stands inside expressions and phrases, or without.
-/
import Stencil.Sql.Statement
import Stencil.Text.Case

namespace Stencil.Sql

/-- A name in a FROM clause, and the names of the queries in scope there, in lower case. -/
structure TableUse where
  scope : List String
  name : QualifiedName
deriving DecidableEq, Repr

/-- The scope with the names of further queries. -/
def scopeWith (scope : List String) (ctes : List Cte) : List String :=
  scope ++ ctes.map fun c => Text.lower c.label.name.text

/-- What is collected inside expressions, if the collection goes that deep. -/
def inside (deep : Bool) (uses : List TableUse) : List TableUse := if deep then uses else []

@[simp] theorem inside_false (uses : List TableUse) : inside false uses = [] := rfl

mutual

/-- The tables named inside an expression. -/
def Expr.tables (scope : List String) : Expr → List TableUse
  | .name _ | .qualified _ | .literal _ => []
  | .nested inner => inner.tables scope
  | .unary _ operand => operand.tables scope
  | .infixed left _ right => left.tables scope ++ right.tables scope
  | .isNull operand => operand.tables scope
  | .isNotNull operand => operand.tables scope
  | .call _ rest _ => tablesOfPieces scope rest
  | .cast _ operand _ => operand.tables scope
  | .phrase pieces => tablesOfPieces scope pieces

def Piece.tables (scope : List String) : Piece → List TableUse
  | .words _ => []
  | .expr e => e.tables scope
  | .query q => q.tables true scope

def tablesOfPieces (scope : List String) : List Piece → List TableUse
  | [] => []
  | p :: rest => p.tables scope ++ tablesOfPieces scope rest

def tablesOfExprs (scope : List String) : List Expr → List TableUse
  | [] => []
  | e :: rest => e.tables scope ++ tablesOfExprs scope rest

def tablesOfRows (scope : List String) : List (List Expr) → List TableUse
  | [] => []
  | row :: rest => tablesOfExprs scope row ++ tablesOfRows scope rest

def tablesOfOption (scope : List String) : Option Expr → List TableUse
  | some e => e.tables scope
  | none => []

/-- The tables named in a query. -/
def Query.tables (deep : Bool) (scope : List String) : Query → List TableUse
  | ⟨_, ctes, body, order, interpolation, limit, offset, _, limitTail, fetch, tail⟩ =>
    let inner := scopeWith scope ctes
    tablesOfCtes deep scope ctes ++ body.tables deep inner
      ++ inside deep (tablesOfKeys inner order ++ tablesOfPieces inner interpolation
        ++ tablesOfOption inner limit ++ tablesOfOption inner offset
        ++ tablesOfPieces inner limitTail ++ tablesOfFetch inner fetch
        ++ tablesOfPieces inner tail)

/-- The tables named in queries in front of another, each in the scope of those before it. -/
def tablesOfCtes (deep : Bool) (scope : List String) : List Cte → List TableUse
  | [] => []
  | ⟨label, query, _⟩ :: rest =>
    query.tables deep scope
      ++ tablesOfCtes deep (scope ++ [Text.lower label.name.text]) rest

def tablesOfKeys (scope : List String) : List OrderKey → List TableUse
  | [] => []
  | ⟨key, _, tail⟩ :: rest =>
    key.tables scope ++ tablesOfPieces scope tail ++ tablesOfKeys scope rest

def tablesOfFetch (scope : List String) : Option Fetch → List TableUse
  | some ⟨quantity, _, _⟩ => tablesOfOption scope quantity
  | none => []

def Body.tables (deep : Bool) (scope : List String) : Body → List TableUse
  | .select s => s.tables deep scope
  | .query q => q.tables deep scope
  | .setOperation _ _ left right => left.tables deep scope ++ right.tables deep scope
  | .values _ rows => inside deep (tablesOfRows scope rows)
  | .other pieces => inside deep (tablesOfPieces scope pieces)

def Select.tables (deep : Bool) (scope : List String) : Select → List TableUse
  | ⟨_, distinctOn, top, projection, _, sources, views, selection, grouping, clustering, having,
      tail⟩ =>
    tablesOfSources deep scope sources
      ++ inside deep (tablesOfPieces scope distinctOn ++ tablesOfPieces scope top
        ++ tablesOfItems scope projection ++ tablesOfPieces scope views
        ++ tablesOfOption scope selection ++ grouping.tables scope
        ++ tablesOfPieces scope clustering ++ tablesOfOption scope having
        ++ tablesOfPieces scope tail)

def Grouping.tables (scope : List String) : Grouping → List TableUse
  | .all _ => []
  | .keys keys _ => tablesOfExprs scope keys

def tablesOfItems (scope : List String) : List SelectItem → List TableUse
  | [] => []
  | .expr e :: rest => e.tables scope ++ tablesOfItems scope rest
  | .aliased e _ :: rest => e.tables scope ++ tablesOfItems scope rest
  | .wildcard options :: rest => tablesOfPieces scope options ++ tablesOfItems scope rest
  | .qualifiedWildcard _ options :: rest =>
    tablesOfPieces scope options ++ tablesOfItems scope rest

/-- The tables named in a FROM clause. -/
def tablesOfSources (deep : Bool) (scope : List String) : List From → List TableUse
  | [] => []
  | item :: rest => item.tables deep scope ++ tablesOfSources deep scope rest

def From.tables (deep : Bool) (scope : List String) : From → List TableUse
  | ⟨factor, joins⟩ => factor.tables deep scope ++ tablesOfJoins deep scope joins

def tablesOfJoins (deep : Bool) (scope : List String) : List Join → List TableUse
  | [] => []
  | ⟨_, _, factor, matching, constraint⟩ :: rest =>
    factor.tables deep scope
      ++ inside deep (tablesOfPieces scope matching ++ constraint.tables scope)
      ++ tablesOfJoins deep scope rest

def Factor.tables (deep : Bool) (scope : List String) : Factor → List TableUse
  | .table name arguments _ hints =>
    ⟨scope, name⟩ :: inside deep (tablesOfPieces scope arguments ++ tablesOfPieces scope hints)
  | .derived _ query _ => query.tables deep scope
  | .nested inner _ => inner.tables deep scope
  | .other pieces _ tail => inside deep (tablesOfPieces scope pieces ++ tablesOfPieces scope tail)

def Constraint.tables (scope : List String) : Constraint → List TableUse
  | .on condition => condition.tables scope
  | .using _ | .natural | .none => []

end

/-- The tables named in the query of an insertion. -/
def Insert.tables (deep : Bool) (i : Insert) : List TableUse :=
  (match i.source with
    | some q => q.tables deep []
    | none => [])
    ++ inside deep (tablesOfPieces [] i.partition ++ tablesOfPieces [] i.tail)

/-- The tables named in a query or an insertion, or in the explanation of one. -/
def Statement.tables (deep : Bool) : Statement → List TableUse
  | .query q => q.tables deep []
  | .insert i => i.tables deep
  | .explain _ inner => inner.tables deep
  | _ => []

/-- The table that an insertion writes into, or the explanation of one is about. -/
def Statement.target? : Statement → Option QualifiedName
  | .insert i => some i.table
  | .explain _ inner => inner.target?
  | _ => none

end Stencil.Sql
