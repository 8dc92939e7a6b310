/-
Statements.

Queries and insertions are planned; definitions change the catalog.  All other
statements are accepted and known only by their written form, apart from whether
they modify data.
-/
import Stencil.Sql.Written

namespace Stencil.Sql

/-- Rows of a query put into a table. -/
structure Insert where
  /-- The words in front of the table, such as `INSERT INTO`. -/
  lead : String
  table : QualifiedName
  columns : List Name
  partition : List Piece
  source : Option Query
  tail : List Piece

/-- A column of a table that is created; its options are kept as written. -/
structure ColumnDefinition where
  name : Name
  dataType : String
  options : String
deriving DecidableEq, Repr

/-- A new table. -/
structure CreateTable where
  /-- The words in front of the name, such as `CREATE TEMPORARY TABLE`. -/
  lead : String
  ifNotExists : Bool
  name : QualifiedName
  /-- What stands between the name and the columns. -/
  placement : String
  columns : List ColumnDefinition
  constraints : List String
  /-- The table to be copied, if the columns are to come from one. -/
  pattern : String
  storage : String
  options : List String
  tail : String
  query : Option Query

/-- A new view. -/
structure CreateView where
  orReplace : Bool
  materialized : Bool
  temporary : Bool
  ifNotExists : Bool
  name : QualifiedName
  target : String
  columns : List Name
  options : String
  query : Query
  tail : String

/-- The kinds of objects that can be dropped by name. -/
inductive DropKind where
  | table
  | view
  | other (words : String)
deriving DecidableEq, Repr

/-- Objects to be dropped. -/
structure Drop where
  temporary : Bool
  kind : DropKind
  ifExists : Bool
  names : List QualifiedName
  tail : String
deriving DecidableEq, Repr

/-- A statement. -/
inductive Statement where
  | query (q : Query)
  | insert (i : Insert)
  | modify (text : String)
  | explain (lead : String) (inner : Statement)
  | createTable (t : CreateTable)
  | createView (v : CreateView)
  | drop (d : Drop)
  | showTables (text : String)
  | other (text : String)

def Insert.written (i : Insert) : String :=
  i.lead ++ " " ++ QualifiedName.written i.table ++ " "
    ++ (if i.columns.isEmpty then "" else "(" ++ writtenNames i.columns ++ ") ")
    ++ writtenPieces i.partition
    ++ (match i.source with
      | some q => q.written
      | none => if i.columns.isEmpty then "DEFAULT VALUES" else "")
    ++ writtenPieces i.tail

def ColumnDefinition.written (c : ColumnDefinition) : String :=
  c.name.written ++ " " ++ c.dataType ++ c.options

/-- The columns and constraints of a table, or empty parentheses where nothing replaces them. -/
def CreateTable.writtenColumns (t : CreateTable) : String :=
  let items := t.columns.map ColumnDefinition.written ++ t.constraints
  if !items.isEmpty then " (" ++ Text.join ", " items ++ ")"
  else if t.query.isNone && t.pattern.isEmpty then " ()"
  else ""

def CreateTable.written (t : CreateTable) : String :=
  t.lead ++ (if t.ifNotExists then " IF NOT EXISTS " else " ") ++ QualifiedName.written t.name
    ++ t.placement ++ t.writtenColumns ++ t.pattern ++ t.storage
    ++ (if t.options.isEmpty then "" else " WITH (" ++ Text.join ", " t.options ++ ")")
    ++ t.tail
    ++ (match t.query with
      | some q => " AS " ++ q.written
      | none => "")

def CreateView.written (v : CreateView) : String :=
  "CREATE " ++ (if v.orReplace then "OR REPLACE " else "")
    ++ (if v.materialized then "MATERIALIZED " else "")
    ++ (if v.temporary then "TEMPORARY " else "") ++ "VIEW "
    ++ (if v.ifNotExists then "IF NOT EXISTS " else "") ++ QualifiedName.written v.name ++ v.target
    ++ Sql.writtenColumns v.columns ++ v.options ++ " AS " ++ v.query.written ++ v.tail

def DropKind.written : DropKind → String
  | table => "TABLE"
  | view => "VIEW"
  | other words => words

def Drop.written (d : Drop) : String :=
  "DROP " ++ (if d.temporary then "TEMPORARY " else "") ++ d.kind.written
    ++ (if d.ifExists then " IF EXISTS" else "") ++ " "
    ++ Text.join ", " (d.names.map QualifiedName.written) ++ d.tail

def Statement.written : Statement → String
  | query q => q.written
  | insert i => i.written
  | modify text => text
  | explain lead inner => lead ++ " " ++ inner.written
  | createTable t => t.written
  | createView v => v.written
  | drop d => d.written
  | showTables text => text
  | other text => text

end Stencil.Sql
