/-
Reports: what is told about a statement that was to be explained.

A report names the kind of the statement and carries its explanation, or else the
message of the error that ended it.  A definition is described in its own words
and never reaches the engine's explanation.
-/
import Stencil.Engine
import Stencil.Json.Value

namespace Stencil

/-- The kinds of statements that reports tell apart. -/
inductive Report.Kind where
  | modify
  | explain
  | query
  | definition
  | fragment
deriving DecidableEq, Repr

namespace Report.Kind

/-- The name of the kind in reports. -/
def name : Report.Kind → String
  | modify => "Modify DML"
  | explain => "Explain DML"
  | query => "Query DML"
  | definition => "DDL"
  | fragment => "Sql Fragment"

/-- The engine explains statements of this kind. -/
def isExplainable : Report.Kind → Bool
  | modify | explain | query => true
  | definition | fragment => false

/-- The kind of an operation. -/
def ofOperation : OperationKind → Report.Kind
  | .modify => modify
  | .explain => explain
  | .query => query
  | .other => definition

end Report.Kind

/-- What is told about one statement. -/
structure Report where
  /-- The place in a script, counted from one; zero outside of scripts. -/
  index : Nat
  sql : String
  kind : Option Report.Kind
  explanation : Option String
  error : Option String
  /-- The statement was read. -/
  parsed : Bool
  /-- The statement was explained, and a definition in a script took effect as well. -/
  explained : Bool
deriving DecidableEq, Repr

namespace Report

/-- The report of a statement with an explanation. -/
def success (sql : String) (kind : Kind) (explanation : String) : Report :=
  ⟨0, sql, some kind, some explanation, none, true, true⟩

/-- The report of a submission that only defines fragments, which explains itself. -/
def ofDefinitions (sql : String) : Report := success sql .fragment sql

/-- The report of a statement that failed. -/
def failed (sql : String) (e : Error) (parsed : Bool) : Report :=
  ⟨0, sql, none, none, some e.message, parsed, false⟩

/-- The report at a place in a script. -/
def numbered (r : Report) (index : Nat) : Report := { r with index }

/-- The report of a definition that was explained and then failed to take effect. -/
def withoutEffect (r : Report) (e : Error) : Report :=
  { r with explained := false, error := some e.message }

def isSuccess (r : Report) : Bool := r.parsed && r.explained

/-- The report of an operation of an engine, told of the text it was submitted as. -/
def ofOperation (engine : Engine σ) (sql : String) (details : List Plan.Detail)
    (op : engine.Operation) : Run σ Report := do
  let kind := Kind.ofOperation (engine.kind op)
  if kind.isExplainable then
    return success sql kind (← engine.explain [op] details)
  else
    return success sql kind (engine.summary op)

/-- The report of the only one of some operations. -/
def ofOperations (engine : Engine σ) (sql : String) (details : List Plan.Detail) :
    List engine.Operation → Run σ Report
  | [op] => ofOperation engine sql details op
  | _ => throw .notSingleQuery

/-! ### Writing -/

/-- A text, or nothing. -/
def jsonText : Option String → Json
  | some text => .string text
  | none => .null

/-- The report as a document. -/
def json (r : Report) : Json :=
  .object [("index", .integer r.index), ("sql", .string r.sql),
    ("type", jsonText (r.kind.map Kind.name)), ("explain", jsonText r.explanation),
    ("error", jsonText r.error), ("parseTrue", .bool r.parsed),
    ("explainTrue", .bool r.explained)]

end Report
end Stencil
