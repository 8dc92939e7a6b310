/-
The planning engine.

It keeps a catalog, plans queries and insertions against it and lets definitions
take effect.  Queries and insertions are checked, explained and translated, but
no row is ever read or written.

Texts are read in the generic dialect of SQL (`Statement.readAll`), and whatever is
proved about texts that are read is about that dialect.  Of the other dialects only the
names are known, to an environment that is set up with one; the engine keeps none.
-/
import Stencil.Engine
import Stencil.Engine.Completion
import Stencil.Graph.StreamGraph
import Stencil.Plan.Drawing
import Stencil.Plan.Planner
import Stencil.Sql.Grammar

namespace Stencil.Planning

open Sql

/-- The catalog, and how many instances of an operator run at once. -/
structure State where
  catalog : Catalog
  parallelism : Nat
deriving DecidableEq, Repr

/-- A statement with its plan, if it has one. -/
structure Operation where
  kind : OperationKind
  statement : Statement
  plan : Option Plan

/-! ### Reading -/

/-- What a statement does. -/
def kindOf : Statement → OperationKind
  | .query _ => .query
  | .insert _ | .modify _ => .modify
  | .explain .. => .explain
  | _ => .other

/-- The statement that is planned on behalf of another: an explained one, or itself. -/
def planned : Statement → Statement
  | .explain _ inner => inner
  | s => s

/-- The operation of a statement. -/
def operation (c : Catalog) (s : Statement) : Except Error Operation := do
  return ⟨kindOf s, s, ← Plan.ofStatement c (planned s)⟩

/-- The operations of a text. -/
def parse (c : Catalog) (text : String) : Except Error (List Operation) := do
  (← Statement.readAll text).mapM (operation c)

/-- The only operation of a text. -/
def single (c : Catalog) (entry : EntryPoint) (text : String) : Except Error Operation := do
  match ← parse c text with
  | [op] => return op
  | _ => .error (.notSingle entry)

namespace Operation

/-- The statement in writing. -/
def summary (op : Operation) : String := op.statement.written

/-- The columns of a planned query, or those that are put into a table. -/
def columns (op : Operation) : List Column := (op.plan.map Plan.columns).getD []

/-- The plan of an operation that has to have one. -/
def getPlan (op : Operation) : Except Error Plan :=
  match op.plan with
  | some p => .ok p
  | none => .error (.noPlan op.summary)

end Operation

/-! ### Explaining -/

/-- The explanation of plans. -/
def explainPlans (parallelism : Nat) (details : List Plan.Detail) (plans : List Plan) : String :=
  let drawn (draw : Plan → String) := Text.join "\n" (plans.map draw)
  "== Abstract Syntax Tree ==\n" ++ drawn Plan.drawLogical
    ++ "\n== Optimized Physical Plan ==\n" ++ drawn (Plan.drawPhysical details)
    ++ "\n== Optimized Execution Plan ==\n" ++ drawn (Plan.drawPhysical [])
    ++ (if details.contains .jsonExecutionPlan then
        "\n== Physical Execution Plan ==\n"
          ++ (StreamGraph.ofTransformations (Plan.translate parallelism plans)).written ++ "\n"
      else "")

/-- The explanation of operations. -/
def explain (s : State) (ops : List Operation) (details : List Plan.Detail) :
    Except Error String := do
  return explainPlans s.parallelism details (← ops.mapM Operation.getPlan)

/-- The explanation of the only statement of a text. -/
def explainText (s : State) (text : String) (details : List Plan.Detail) :
    Except Error String := do
  let op ← single s.catalog .explain text
  if op.kind = .other then .error (.notExplainable op.summary) else explain s [op] details

/-! ### Running -/

/-- A change of the catalog as a computation on the state. -/
def changing (f : Catalog → Except Error (α × Catalog)) : Run State α :=
  Run.change fun s => (f s.catalog).map fun (a, c) => (a, { s with catalog := c })

/-- The path that a name stands for. -/
def pathOf (name : QualifiedName) : Run State ObjectPath :=
  Run.read fun s => s.catalog.qualify (QualifiedName.texts name)

/-- Creates a table. -/
def createTable (t : CreateTable) : Run State Unit := do
  if t.columns.isEmpty then throw .noColumns
  let path ← pathOf t.name
  let columns := t.columns.map fun col => ⟨col.name.text, col.dataType⟩
  let _ ← changing fun c => c.create path (.table columns t.options) t.ifNotExists

/-- Creates a view with the columns of its query, in place of another view if that is asked for. -/
def createView (v : CreateView) : Run State Unit := do
  let path ← pathOf v.name
  let p ← Run.read fun s => Plan.ofQuery s.catalog [] v.query
  if v.orReplace then
    let _ ← changing fun c => c.drop path .view true
  let _ ← changing fun c => c.create path (.view p.columns v.query.written) v.ifNotExists

/-- The kind of object that a statement drops. -/
def droppedKind : DropKind → Except Error ObjectKind
  | .table => .ok .table
  | .view => .ok .view
  | .other words => .error (.unsupportedDrop words)

/-- Drops objects one after the other; those before a failure stay dropped. -/
def dropAll (kind : ObjectKind) (ifExists : Bool) : List QualifiedName → Run State Unit
  | [] => pure ()
  | name :: rest => do
    let path ← pathOf name
    let _ ← changing fun c => c.drop path kind ifExists
    dropAll kind ifExists rest

/-- The tables and views of the default database as a result. -/
def listing (c : Catalog) : TableResult :=
  .withRows [⟨"table name", "STRING"⟩] (c.objectNames.map fun name => [.text name])

/-- Lets a definition take effect; any other statement is accepted without effect. -/
def define : Statement → Run State TableResult
  | .createTable t => do
    createTable t
    return .ok
  | .createView v => do
    createView v
    return .ok
  | .drop d => do
    let kind ← Run.read fun _ => droppedKind d.kind
    dropAll kind d.ifExists d.names
    return .ok
  | .showTables _ => Run.read fun s => .ok (listing s.catalog)
  | _ => pure .ok

/-- The table that a plan writes into. -/
def sinkOf (p : Plan) : Except Error ObjectPath :=
  match p.operator with
  | .sink path _ => .ok path
  | _ => .error .sinkMissing

/-- Runs an operation: all rows of a query are missing, and no rows are counted on insertion. -/
def run (op : Operation) : Run State TableResult :=
  match op.kind with
  | .query => pure (.withRows op.columns [])
  | .modify => Run.read fun _ => do
    let path ← sinkOf (← op.getPlan)
    return .withRows [⟨path.written, "BIGINT"⟩] [[.integer (-1)]]
  | .explain => Run.read fun s => do
    let text := explainPlans s.parallelism [] [← op.getPlan]
    return .withRows [⟨"result", "STRING"⟩] [[.text text]]
  | .other => define op.statement

/-- Runs the only statement of a text. -/
def execute (text : String) : Run State TableResult := do
  run (← Run.read fun s => single s.catalog .execute text)

/-- Runs the only statement of a text, which must be neither a query nor an explanation. -/
def update (text : String) : Run State Unit := do
  let op ← Run.read fun s => single s.catalog .update text
  if op.kind = .query || op.kind = .explain then throw .notAnUpdate
  let _ ← run op

/-- The relation that a query stands for. -/
def query (s : State) (text : String) : Except Error Relation := do
  let op ← single s.catalog .query text
  if op.kind = .query then return ⟨op.columns, .query op.summary⟩ else .error .notAQuery

/-! ### Translating -/

/-- The plan of an operation that writes. -/
def translatable (op : Operation) : Except Error Plan :=
  if op.kind = .modify then op.getPlan else .error (.notTranslatable op.summary)

/-- The transformations of operations that write. -/
def translate (s : State) (ops : List Operation) : Except Error (List Transformation) := do
  return Plan.translate s.parallelism (← ops.mapM translatable)

/-! ### The engine -/

/-- The planning engine. -/
def engine : Engine State where
  Operation := Operation
  Step := Transformation
  kind op := op.kind
  summary op := op.summary
  parse text := Run.read fun s => parse s.catalog text
  explainText text details := Run.read fun s => explainText s text details
  explain ops details := Run.read fun s => explain s ops details
  hints text position := Run.read fun s => .ok (Completion.hints s.catalog text position)
  query text := Run.read fun s => query s text
  execute := execute
  update := update
  registerFunction f := changing fun c => (c.registerFunction f).map fun c => ((), c)
  translate ops := Run.read fun s => translate s ops
  graph steps := pure (some (StreamGraph.ofTransformations steps).written)

end Stencil.Planning
