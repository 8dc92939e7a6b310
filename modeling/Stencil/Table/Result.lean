/-
What a statement hands back.

A statement that has nothing to report ends with the result `ok`: one column
`result` with the text OK.  Any other result carries its rows.  `Relation` is the
result of a query that is planned and not run: its columns, and either the query
or rows held in memory.
-/
import Stencil.Table.Cell

namespace Stencil

/-- Whether a result carries rows of its own. -/
inductive ResultKind where
  | success
  | content
deriving DecidableEq, Repr

/-- The result of one statement. -/
structure TableResult where
  kind : ResultKind
  columns : List Column
  rows : List Row
deriving DecidableEq, Repr

namespace TableResult

/-- The result of a statement that has nothing to report. -/
def ok : TableResult := ⟨.success, [⟨"result", "STRING"⟩], [[.text "OK"]]⟩

/-- A result that carries rows. -/
def withRows (columns : List Column) (rows : List Row) : TableResult := ⟨.content, columns, rows⟩

/-- The result `ok` and no other. -/
def isOk (r : TableResult) : Bool := r == ok

def columnNames (r : TableResult) : List String := r.columns.map (·.name)

end TableResult

/-- Where the rows of a relation come from. -/
inductive Relation.Source where
  | query (sql : String)
  | rows (rows : List Row)
deriving DecidableEq, Repr

/-- A table that a query stands for. -/
structure Relation where
  columns : List Column
  source : Relation.Source
deriving DecidableEq, Repr

end Stencil
