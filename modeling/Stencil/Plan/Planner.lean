/-
Plans of queries and insertions.

Planning follows the tree of the query.  Tables are looked up among the queries
named in front first, by their names in lower case, and then in the catalog.  A
plan is found if and only if every name that is looked up means something.
-/
import Stencil.Catalog
import Stencil.Plan.Resolve
import Stencil.Sql.Statement

namespace Stencil.Plan

open Sql

/-- The plans of the queries named so far, by their names in lower case. -/
abbrev Scope := Keyed String Plan

/-! ### Select lists -/

/-- An item of a select list: the name of its field, its expression, and its type if the item
says it. -/
structure Projected where
  name : String
  expr : Expr
  dataType : Option String

/-- The item that hands on a field. -/
def Projected.ofField (f : Field) : Projected :=
  ⟨f.name, .name (.plain f.name), some f.dataType⟩

/-- The name of the field of an item without an alias, `index` being its place in the list. -/
def fieldName (index : Nat) : Expr → String
  | .name n => n.text
  | .qualified parts => (parts.getLast?.map (·.text)).getD ""
  | _ => "EXPR$" ++ toString index

/-- The items that an item of a select list stands for. -/
def project (fields : List Field) (index : Nat) : SelectItem → Except Error (List Projected)
  | .expr e => do
    checkReferences fields e
    return [⟨fieldName index e, e, none⟩]
  | .aliased e label => do
    checkReferences fields e
    return [⟨label.text, e, none⟩]
  | .wildcard _ => .ok (fields.map .ofField)
  | .qualifiedWildcard qualifier _ =>
    let q := (qualifier.getLast?.map (·.text)).getD ""
    match fields.filter (isUnder q) with
    | [] => .error (.unknownQualifier q)
    | visible => .ok (visible.map .ofField)

/-- The items that a select list stands for; the first item has place `index`. -/
def projectAll (fields : List Field) (index : Nat) :
    List SelectItem → Except Error (List Projected)
  | [] => .ok []
  | item :: rest => do
    let first ← project fields index item
    let others ← projectAll fields (index + 1) rest
    return first ++ others

/-! ### Calls -/

/-- The expression is a call that folds groups of rows. -/
def isAggregate (c : Catalog) : Expr → Bool
  | .call function _ _ =>
    match c.function? (QualifiedName.written function) with
    | some f => f.kind.isAggregate
    | none => aggregates.contains (Text.upper (QualifiedName.written function))
  | .nested inner => isAggregate c inner
  | _ => false

/-- The type that a registered function yields, if the expression is a call of one. -/
def callType (c : Catalog) : Expr → Option String
  | .call function _ _ => (c.function? (QualifiedName.written function)).map (·.returnType)
  | .nested inner => callType c inner
  | _ => none

/-- The type of an item over the fields. -/
def Projected.typeOver (c : Catalog) (fields : List Field) (item : Projected) : String :=
  (item.dataType <|> callType c item.expr).getD (typeOf fields item.expr)

/-- The item as a name with its expression in writing. -/
def Projected.written (item : Projected) : String × String := (item.name, item.expr.written)

/-! ### Operators -/

/-- A selection without sources draws on a single row. -/
def singleRow : Plan := ⟨.values [["0"]], [], [⟨none, "ZERO", "INT"⟩]⟩

/-- Two plans joined. -/
def joined (left right : Plan) (mode : JoinMode) (condition : Option String) : Plan :=
  ⟨.join mode condition, [left, right], left.fields ++ right.fields⟩

/-- The rows that a join keeps, and whether its constraint counts. -/
def joinMode : JoinKind → JoinMode × Bool
  | .inner => (.inner, true)
  | .left => (.left, true)
  | .right => (.right, true)
  | .full => (.full, true)
  | _ => (.inner, false)

/-- The condition of a join over the fields of both sides. -/
def joinCondition (fields : List Field) (counts : Bool) :
    Constraint → Except Error (Option String)
  | .on condition =>
    if counts then do
      checkReferences fields condition
      return some condition.written
    else .ok none
  | _ => .ok none

/-- A key to order by in writing. -/
def sortKey (k : OrderKey) : String :=
  k.key.written ++ (if k.ascending == some false then " DESC" else " ASC")

/-- The plan in order and cut to size, if any of that is asked for. -/
def sorted (p : Plan) (order : List OrderKey) (offset limit : Option Expr) : Plan :=
  if order.isEmpty && offset.isNone && limit.isNone then p
  else p.above (.sort (order.map sortKey) (offset.map Expr.written) (limit.map Expr.written))

/-- Two plans as one set of rows. -/
def combined (op : SetOperator) (quantifier : SetQuantifier) (left right : Plan) :
    Except Error Plan :=
  if left.fields.length = right.fields.length then
    let how := match op with
      | .union => Combination.union
      | .intersect => Combination.intersect
      | .except => Combination.minus
    .ok ⟨.combine how (quantifier == .all), [left, right], left.fields.map Field.unqualified⟩
  else .error (.setColumnCounts left.fields.length right.fields.length)

/-- Rows of values; the first row gives the fields. -/
def valuesOf : List (List Expr) → Except Error Plan
  | [] => .error .valuesWithoutRows
  | first :: rest =>
    .ok ⟨.values ((first :: rest).map fun row => row.map Expr.written), [],
      first.zipIdx.map fun (e, i) => ⟨none, "EXPR$" ++ toString i, typeOf [] e⟩⟩

/-- The rows that satisfy a condition. -/
def filtered (p : Plan) : Option Expr → Plan
  | some condition => p.above (.filter condition.written)
  | none => p

/-- The rows that satisfy a condition whose references mean fields. -/
def selected? (p : Plan) : Option Expr → Except Error Plan
  | some condition => do
    checkReferences p.fields condition
    return p.above (.filter condition.written)
  | none => .ok p

/-- The keys that rows are grouped by in writing. -/
def groupKeys (c : Catalog) (items : List Projected) : Grouping → List String
  | .keys keys _ => keys.map Expr.written
  | .all _ => (items.filter fun item => !isAggregate c item.expr).map (·.expr.written)

/-- The items of a select list computed, and folded if they are grouped or any of them folds. -/
def projected (c : Catalog) (p : Plan) (items : List Projected) (grouping : Grouping) : Plan :=
  let keys := groupKeys c items grouping
  let calls := items.filter fun item => isAggregate c item.expr
  let fields := items.map fun item => ⟨none, item.name, item.typeOver c p.fields⟩
  if calls.isEmpty && keys.isEmpty then ⟨.project (items.map Projected.written), [p], fields⟩
  else ⟨.aggregate keys (calls.map Projected.written), [p], fields⟩

/-- The rows without repetition. -/
def distinctRows (p : Plan) (distinct : Bool) : Plan :=
  if distinct then p.above (.aggregate (p.fields.map (·.name)) []) else p

/-- A table or a view under the name it is visible by. -/
def scanned (c : Catalog) (parts : List String) (visible : String) : Except Error Plan := do
  let path ← c.qualify parts
  let object ← c.resolve path
  return ⟨.scan path, [], object.columns.map fun col => ⟨some visible, col.name, col.dataType⟩⟩

/-- What a name in a FROM clause stands for, under the name it is visible by. -/
def relation (c : Catalog) (scope : Scope) (parts : List String) (visible : String) :
    Except Error Plan :=
  match parts with
  | [single] =>
    match scope.find? (Text.lower single) with
    | some p => .ok (p.requalified visible)
    | none => scanned c parts visible
  | _ => scanned c parts visible

/-! ### Queries -/

mutual

/-- The plan of a query. -/
def ofQuery (c : Catalog) (scope : Scope) : Query → Except Error Plan
  | ⟨_, ctes, body, order, _, limit, offset, _, _, _, _⟩ => do
    let inner ← scopeOf c scope ctes
    let p ← ofBody c inner body
    return sorted p order offset limit

/-- The scope with further named queries, each seen by those behind it. -/
def scopeOf (c : Catalog) (scope : Scope) : List Cte → Except Error Scope
  | [] => .ok scope
  | ⟨label, query, _⟩ :: rest => do
    let p ← ofQuery c scope query
    scopeOf c (scope.put (Text.lower label.name.text) (p.requalified label.name.text)) rest

/-- The plan of the body of a query. -/
def ofBody (c : Catalog) (scope : Scope) : Body → Except Error Plan
  | .select s => ofSelect c scope s
  | .query q => ofQuery c scope q
  | .setOperation op quantifier left right => do
    let l ← ofBody c scope left
    let r ← ofBody c scope right
    combined op quantifier l r
  | .values _ rows => valuesOf rows
  | .other pieces => .error (.unsupportedBody (writtenPieces pieces))

/-- The plan of a selection. -/
def ofSelect (c : Catalog) (scope : Scope) : Select → Except Error Plan
  | ⟨distinct, _, _, projection, _, sources, _, selection, grouping, _, having, _⟩ => do
    let input ← ofSources c scope sources
    let input ← selected? input selection
    let items ← projectAll input.fields 0 projection
    return distinctRows (filtered (projected c input items grouping) having) distinct

/-- The plan of a FROM clause. -/
def ofSources (c : Catalog) (scope : Scope) : List From → Except Error Plan
  | [] => .ok singleRow
  | first :: rest => do
    let p ← ofFrom c scope first
    ofMoreSources c scope p rest

/-- The plan of the further items of a FROM clause, joined to what stands before them. -/
def ofMoreSources (c : Catalog) (scope : Scope) (p : Plan) : List From → Except Error Plan
  | [] => .ok p
  | item :: rest => do
    let right ← ofFrom c scope item
    ofMoreSources c scope (joined p right .inner none) rest

/-- The plan of an item of a FROM clause. -/
def ofFrom (c : Catalog) (scope : Scope) : From → Except Error Plan
  | ⟨factor, joins⟩ => do
    let p ← ofFactor c scope factor
    ofJoins c scope p joins

/-- The plan of what is joined to a plan. -/
def ofJoins (c : Catalog) (scope : Scope) (p : Plan) : List Join → Except Error Plan
  | [] => .ok p
  | ⟨_, kind, factor, _, constraint⟩ :: rest => do
    let right ← ofFactor c scope factor
    let condition ← joinCondition (p.fields ++ right.fields) (joinMode kind).2 constraint
    ofJoins c scope (joined p right (joinMode kind).1 condition) rest

/-- The plan of a factor. -/
def ofFactor (c : Catalog) (scope : Scope) : Factor → Except Error Plan
  | .table name _ label _ =>
    let parts := QualifiedName.texts name
    let visible := match label with
      | some a => a.name.text
      | none => parts.getLast?.getD ""
    relation c scope parts visible
  | .derived _ query label => do
    let p ← ofQuery c scope query
    return match label with
      | some a => p.requalified a.name.text
      | none => p
  | .nested inner _ => ofFrom c scope inner
  | .other pieces label tail =>
    .error (.unsupportedTableReference (writtenPieces pieces ++ writtenAlias label
      ++ writtenPieces tail))

end

/-! ### Statements -/

/-- The fields of a table that an insertion fills, in the table's own spelling. -/
def targets (path : ObjectPath) (columns : List Column) (named : List Name) :
    Except Error (List String) :=
  if named.isEmpty then .ok (columns.map (·.name))
  else named.mapM fun n =>
    match columns.find? fun col => Text.sameIgnoringCase col.name n.text with
    | some col => .ok col.name
    | none => .error (.unknownTargetColumn n.text path.written)

/-- The columns of a table that rows can be put into. -/
def targetColumns (c : Catalog) (path : ObjectPath) : Except Error (List Column) := do
  match ← c.resolve path with
  | .table columns _ => return columns
  | .view .. => .error (.insertIntoView path.written)

/-- The plan of an insertion. -/
def ofInsert (c : Catalog) (i : Insert) : Except Error Plan := do
  let path ← c.qualify (QualifiedName.texts i.table)
  let columns ← targetColumns c path
  match i.source with
  | none => .error .insertWithoutSource
  | some source =>
    let input ← ofQuery c [] source
    let fields ← targets path columns i.columns
    if fields.length = input.fields.length then return input.above (.sink path fields)
    else .error (.columnCountMismatch path.written input.fields.length fields.length)

/-- The plan of a statement; only queries and insertions have one. -/
def ofStatement (c : Catalog) : Statement → Except Error (Option Plan)
  | .query q => some <$> ofQuery c [] q
  | .insert i => some <$> ofInsert c i
  | _ => .ok none

end Stencil.Plan
