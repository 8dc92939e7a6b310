/-
The recording engine.

It tells statements apart by their first word, answers every call in a fixed
way, and remembers the calls in order.
-/
import Stencil.Engine
import Stencil.Text.Blank
import Stencil.Text.Case
import Stencil.Text.Search

namespace Stencil.Recording

/-- The calls so far, and the graph that is handed out. -/
structure State where
  calls : List String
  graph : Option String
deriving DecidableEq, Repr

/-- A statement with what its first word says it does. -/
structure Operation where
  kind : OperationKind
  sql : String
deriving DecidableEq, Repr

/-- A recording engine that hands out a graph without nodes. -/
def State.new : State := ⟨[], some "\x7b\"nodes\":[]\x7d"⟩

/-- Remembers a call. -/
def record (method argument : String) : Run State Unit := fun s =>
  (.ok (), { s with calls := s.calls ++ [method ++ ": " ++ argument] })

/-- What a statement does, by its first word. -/
def classify (statement : String) : OperationKind :=
  match Text.upper ((Text.words statement).headD "") with
  | "INSERT" | "UPDATE" | "DELETE" => .modify
  | "SELECT" | "WITH" | "VALUES" => .query
  | "EXPLAIN" => .explain
  | _ => .other

/-- The operations of a text, which must not refer to fragments. -/
def operations (text : String) : Except Error (List Operation) :=
  if (Text.behind? ['$', '\x7b'] text.toList).isSome then .error (.unresolvedReference text)
  else
    let pieces := (Text.split [';'] text.toList).map Text.trimmed
    .ok ((pieces.filter (!·.isEmpty)).map fun s =>
      ⟨classify (String.ofList s), String.ofList s⟩)

/-- The statements of operations. -/
def joined (ops : List Operation) : String := Text.join "; " (ops.map (·.sql))

/-- Details in brackets. -/
def writtenDetails (details : List Plan.Detail) : String :=
  "[" ++ Text.join ", " (details.map Plan.Detail.name) ++ "]"

/-- The recording engine. -/
def engine : Engine State where
  Operation := Operation
  Step := String
  kind op := op.kind
  summary op := op.sql
  parse text := do
    record "parse" text
    Run.read fun _ => operations text
  explainText text details := do
    record "explain_sql" text
    return "explained " ++ text ++ " " ++ writtenDetails details
  explain ops details := do
    record "explain" (joined ops)
    return "plan of " ++ joined ops ++ " " ++ writtenDetails details
  hints text position := do
    record "completion_hints" text
    return ["hint@" ++ toString position]
  query text := do
    record "sql_query" text
    return ⟨[], .query text⟩
  execute text := do
    record "execute_sql" text
    return .ok
  update text := record "sql_update" text
  registerFunction f :=
    record "register_function" (f.name ++ " " ++ f.kind.name ++ " " ++ f.returnType)
  translate ops := do
    record "translate" (joined ops)
    return ops.map (·.sql)
  graph steps := do
    record "stream_graph_json" (Text.join "; " steps)
    Run.read fun s => .ok s.graph

end Stencil.Recording
