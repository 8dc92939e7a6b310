/-
Statements without the queries inside their expressions.

An expression may hold queries, behind EXISTS or IN, between parentheses or among the arguments
of a call.  Here all of them are taken out of a statement, wherever an expression stands in it, and
nothing is put in their place; the queries that a FROM clause or a WITH clause leads to stay, and
are hollowed out in their turn.  Two statements that come to the same then differ only in queries
inside expressions.
-/
import Stencil.Proofs.Sql.TableUse

namespace Stencil.Sql

/-! ### Expressions -/

mutual

/-- The expression without the queries in it. -/
def Expr.hollow : Expr → Expr
  | .name n => .name n
  | .qualified parts => .qualified parts
  | .literal value => .literal value
  | .nested inner => .nested inner.hollow
  | .unary op operand => .unary op operand.hollow
  | .infixed left op right => .infixed left.hollow op right.hollow
  | .isNull operand => .isNull operand.hollow
  | .isNotNull operand => .isNotNull operand.hollow
  | .call function rest windowed => .call function (hollowPieces rest) windowed
  | .cast form operand target => .cast form operand.hollow target
  | .phrase pieces => .phrase (hollowPieces pieces)

def Piece.hollow : Piece → Piece
  | .words text => .words text
  | .expr e => .expr e.hollow
  | .query _ => .words ""

def hollowPieces : List Piece → List Piece
  | [] => []
  | p :: rest => p.hollow :: hollowPieces rest

end

def OrderKey.hollow (k : OrderKey) : OrderKey :=
  ⟨k.key.hollow, k.ascending, hollowPieces k.tail⟩

def Fetch.hollow (f : Fetch) : Fetch := ⟨f.quantity.map Expr.hollow, f.percent, f.withTies⟩

def SelectItem.hollow : SelectItem → SelectItem
  | .expr e => .expr e.hollow
  | .aliased e label => .aliased e.hollow label
  | .wildcard options => .wildcard (hollowPieces options)
  | .qualifiedWildcard qualifier options => .qualifiedWildcard qualifier (hollowPieces options)

def Grouping.hollow : Grouping → Grouping
  | .all modifiers => .all modifiers
  | .keys exprs modifiers => .keys (exprs.map Expr.hollow) modifiers

def Constraint.hollow : Constraint → Constraint
  | .on condition => .on condition.hollow
  | .using columns => .using columns
  | .natural => .natural
  | .none => .none

/-! ### Queries -/

mutual

/-- The query with its expressions hollowed out, and those of the queries that it draws on. -/
def Query.hollow : Query → Query
  | ⟨recursive, ctes, body, order, interpolation, limit, offset, offsetUnit, limitTail, fetch,
      tail⟩ =>
    ⟨recursive, hollowCtes ctes, body.hollow, order.map OrderKey.hollow,
      hollowPieces interpolation, limit.map Expr.hollow, offset.map Expr.hollow, offsetUnit,
      hollowPieces limitTail, fetch.map Fetch.hollow, hollowPieces tail⟩

def hollowCtes : List Cte → List Cte
  | [] => []
  | ⟨label, query, source⟩ :: rest => ⟨label, query.hollow, source⟩ :: hollowCtes rest

/-- The body; one that is refused stays as it is, because the error shows it. -/
def Body.hollow : Body → Body
  | .select s => .select s.hollow
  | .query q => .query q.hollow
  | .setOperation op quantifier left right =>
    .setOperation op quantifier left.hollow right.hollow
  | .values explicitRow rows => .values explicitRow (rows.map fun row => row.map Expr.hollow)
  | .other pieces => .other pieces

def Select.hollow : Select → Select
  | ⟨distinct, distinctOn, top, projection, into, sources, views, selection, grouping, clustering,
      having, tail⟩ =>
    ⟨distinct, hollowPieces distinctOn, hollowPieces top, projection.map SelectItem.hollow, into,
      hollowSources sources, hollowPieces views, selection.map Expr.hollow, grouping.hollow,
      hollowPieces clustering, having.map Expr.hollow, hollowPieces tail⟩

def hollowSources : List From → List From
  | [] => []
  | item :: rest => item.hollow :: hollowSources rest

def From.hollow : From → From
  | ⟨factor, joins⟩ => ⟨factor.hollow, hollowJoins joins⟩

def hollowJoins : List Join → List Join
  | [] => []
  | ⟨global, kind, factor, matching, constraint⟩ :: rest =>
    ⟨global, kind, factor.hollow, hollowPieces matching, constraint.hollow⟩ :: hollowJoins rest

/-- The factor; one that is refused stays as it is, because the error shows it. -/
def Factor.hollow : Factor → Factor
  | .table name arguments label hints =>
    .table name (hollowPieces arguments) label (hollowPieces hints)
  | .derived lateral query label => .derived lateral query.hollow label
  | .nested inner label => .nested inner.hollow label
  | .other pieces label tail => .other pieces label tail

end

def Insert.hollow (i : Insert) : Insert :=
  { i with
    partition := hollowPieces i.partition
    source := i.source.map Query.hollow
    tail := hollowPieces i.tail }

/-- The statement with its query, that of the insertion, or the explained statement hollowed
out. -/
def Statement.hollow : Statement → Statement
  | .query q => .query q.hollow
  | .insert i => .insert i.hollow
  | .explain lead inner => .explain lead inner.hollow
  | s => s

/-! ### What is named outside expressions -/

theorem scopeWith_hollowCtes (scope : List String) (ctes : List Cte) :
    scopeWith scope (hollowCtes ctes) = scopeWith scope ctes := by
  have hnames : (hollowCtes ctes).map (fun c => Text.lower c.label.name.text)
      = ctes.map fun c => Text.lower c.label.name.text := by
    induction ctes with
    | nil => rw [hollowCtes]
    | cons cte rest ih =>
        obtain ⟨label, query, source⟩ := cte
        rw [hollowCtes, List.map_cons, List.map_cons, ih]
  rw [scopeWith, scopeWith, hnames]

mutual

theorem Query.tables_hollow : ∀ (q : Query) (scope : List String),
    q.hollow.tables false scope = q.tables false scope
  | ⟨_, ctes, body, _, _, _, _, _, _, _, _⟩, scope => by
    rw [Query.hollow, Query.tables, Query.tables, inside_false, inside_false,
      tablesOfCtes_hollow ctes scope, scopeWith_hollowCtes, Body.tables_hollow body]

theorem tablesOfCtes_hollow : ∀ (ctes : List Cte) (scope : List String),
    tablesOfCtes false scope (hollowCtes ctes) = tablesOfCtes false scope ctes
  | [], scope => by rw [hollowCtes]
  | ⟨label, query, _⟩ :: rest, scope => by
    rw [hollowCtes, tablesOfCtes, tablesOfCtes, Query.tables_hollow query,
      tablesOfCtes_hollow rest]

theorem Body.tables_hollow : ∀ (b : Body) (scope : List String),
    b.hollow.tables false scope = b.tables false scope
  | .select s, scope => by rw [Body.hollow, Body.tables, Body.tables, Select.tables_hollow s]
  | .query q, scope => by rw [Body.hollow, Body.tables, Body.tables, Query.tables_hollow q]
  | .setOperation op quantifier left right, scope => by
    rw [Body.hollow, Body.tables, Body.tables, Body.tables_hollow left, Body.tables_hollow right]
  | .values _ rows, scope => by
    rw [Body.hollow, Body.tables, Body.tables, inside_false, inside_false]
  | .other pieces, scope => by rw [Body.hollow]

theorem Select.tables_hollow : ∀ (s : Select) (scope : List String),
    s.hollow.tables false scope = s.tables false scope
  | ⟨_, _, _, _, _, sources, _, _, _, _, _, _⟩, scope => by
    rw [Select.hollow, Select.tables, Select.tables, inside_false, inside_false,
      tablesOfSources_hollow sources]

theorem tablesOfSources_hollow : ∀ (sources : List From) (scope : List String),
    tablesOfSources false scope (hollowSources sources) = tablesOfSources false scope sources
  | [], scope => by rw [hollowSources]
  | item :: rest, scope => by
    rw [hollowSources, tablesOfSources, tablesOfSources, From.tables_hollow item,
      tablesOfSources_hollow rest]

theorem From.tables_hollow : ∀ (item : From) (scope : List String),
    item.hollow.tables false scope = item.tables false scope
  | ⟨factor, joins⟩, scope => by
    rw [From.hollow, From.tables, From.tables, Factor.tables_hollow factor,
      tablesOfJoins_hollow joins]

theorem tablesOfJoins_hollow : ∀ (joins : List Join) (scope : List String),
    tablesOfJoins false scope (hollowJoins joins) = tablesOfJoins false scope joins
  | [], scope => by rw [hollowJoins]
  | ⟨_, _, factor, _, _⟩ :: rest, scope => by
    rw [hollowJoins, tablesOfJoins, tablesOfJoins, inside_false, inside_false,
      Factor.tables_hollow factor, tablesOfJoins_hollow rest]

theorem Factor.tables_hollow : ∀ (factor : Factor) (scope : List String),
    factor.hollow.tables false scope = factor.tables false scope
  | .table name _ _ _, scope => by
    rw [Factor.hollow, Factor.tables, Factor.tables, inside_false, inside_false]
  | .derived _ query _, scope => by
    rw [Factor.hollow, Factor.tables, Factor.tables, Query.tables_hollow query]
  | .nested inner _, scope => by
    rw [Factor.hollow, Factor.tables, Factor.tables, From.tables_hollow inner]
  | .other pieces _ tail, scope => by rw [Factor.hollow]

end

/-- What is named outside expressions stays where it is. -/
theorem Statement.tables_hollow (s : Statement) : s.hollow.tables false = s.tables false := by
  induction s with
  | query q => exact q.tables_hollow []
  | insert i =>
      show i.hollow.tables false = i.tables false
      rw [Insert.tables, Insert.tables, inside_false, inside_false, Insert.hollow]
      cases i.source with
      | none => rfl
      | some q => exact congrArg (· ++ []) (q.tables_hollow [])
  | explain lead inner ih => exact ih
  | _ => rfl

end Stencil.Sql
