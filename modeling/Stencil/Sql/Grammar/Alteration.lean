/-
Statements that change what is there: columns and partitions of tables, the query
of a view, the name of an index.

All of them are read for their written form.
-/
import Stencil.Sql.Grammar.Column

namespace Stencil.Sql.Grammar

open Sql.Parser

/-! ### Parts of changes -/

/-- Expressions between parentheses that select a partition, written out. -/
def partitionValues (g : Grammar) : Parser String := do
  return "PARTITION (" ++ writtenExprs (← inParens g.exprs) ++ ")"

/-- Where a column is put among the others. -/
def columnPlace : Parser String := do
  if ← key? "FIRST" then return " FIRST"
  if ← key? "AFTER" then return " AFTER " ++ (← name).written
  return ""

/-- Options of a column that may follow its new type. -/
def changedOptions (g : Grammar) : Nat → Parser String
  | 0 => failure
  | n + 1 => do
    match ← columnOption? g with
    | some text => return " " ++ text ++ (← changedOptions g n)
    | none => return ""

/-- A new type for a column with its options and its place. -/
def changedType (g : Grammar) : Parser String := do
  let t ← dataType
  let options ← changedOptions g (← rounds)
  return " " ++ t.written ++ options ++ (← columnPlace)

/-! ### Changing tables -/

/-- What is added to a table. -/
def addition (g : Grammar) : Parser String := do
  if let some c ← tableConstraint? g then return "ADD " ++ c
  let early ← ifNotExists
  let partitions ← manyWhile (key? "PARTITION") (partitionValues g) (← rounds)
  if !partitions.isEmpty then
    return "ADD" ++ only early " IF NOT EXISTS" ++ " " ++ Text.join " " partitions
  let word ← key? "COLUMN"
  let late ← ifNotExists
  let c ← column g
  return "ADD" ++ only word " COLUMN" ++ only (early || late) " IF NOT EXISTS" ++ " " ++ c.written
    ++ (← columnPlace)

/-- What is removed from a table. -/
def removal (g : Grammar) : Parser String := do
  if ← keys? ["IF", "EXISTS", "PARTITION"] then
    return "DROP IF EXISTS " ++ (← partitionValues g)
  if ← key? "PARTITION" then return "DROP " ++ (← partitionValues g)
  if ← key? "CONSTRAINT" then
    let optional ← ifExists
    let n ← name
    let cascade ← key? "CASCADE"
    return "DROP CONSTRAINT " ++ only optional "IF EXISTS " ++ n.written
      ++ only cascade " CASCADE"
  if ← keys? ["PRIMARY", "KEY"] then return "DROP PRIMARY KEY"
  let _ ← key? "COLUMN"
  let optional ← ifExists
  let n ← name
  let cascade ← key? "CASCADE"
  return "DROP COLUMN " ++ only optional "IF EXISTS " ++ n.written ++ only cascade " CASCADE"

/-- The numbers that an identity column is filled with, behind the words that introduce it. -/
def addedIdentity : Parser String := do
  let mode ← if ← key? "ALWAYS" then pure " ALWAYS"
    else if ← keys? ["BY", "DEFAULT"] then pure " BY DEFAULT"
    else pure ""
  keys ["AS", "IDENTITY"]
  let options ← if ← peekSymbol "(" then do pure (" (" ++ (← inParens sequenceOptions) ++ " )")
    else pure ""
  return "ADD GENERATED" ++ mode ++ " AS IDENTITY" ++ options

/-- How a column of a table changes. -/
def columnChange (g : Grammar) : Parser String := do
  let _ ← key? "COLUMN"
  let n ← name
  let lead := "ALTER COLUMN " ++ n.written ++ " "
  if ← keys? ["SET", "NOT", "NULL"] then return lead ++ "SET NOT NULL"
  if ← keys? ["DROP", "NOT", "NULL"] then return lead ++ "DROP NOT NULL"
  if ← keys? ["SET", "DEFAULT"] then return lead ++ "SET DEFAULT " ++ (← g.expr).written
  if ← keys? ["DROP", "DEFAULT"] then return lead ++ "DROP DEFAULT"
  if ← keys? ["ADD", "GENERATED"] then return lead ++ (← addedIdentity)
  keys ["SET", "DATA", "TYPE"]
  return lead ++ "SET DATA TYPE " ++ (← dataType).written

/-- A column with a new type, and perhaps a new name. -/
def columnReplacement (g : Grammar) (k : String) : Parser String := do
  let _ ← key? "COLUMN"
  let old ← name
  let new ← if k == "CHANGE" then do pure (" " ++ (← name).written) else pure ""
  return k ++ " COLUMN " ++ old.written ++ new ++ (← changedType g)

/-- A new name for a table or a column. -/
def renamedPart : Parser String := do
  if ← key? "TO" then return "RENAME TO " ++ QualifiedName.written (← qualifiedName)
  let _ ← key? "COLUMN"
  let old ← name
  key "TO"
  return "RENAME COLUMN " ++ old.written ++ " TO " ++ (← name).written

/-- Rules, triggers and the security of rows, switched on or off. -/
def switch (k : String) : Parser String := do
  if ← keys? ["ROW", "LEVEL", "SECURITY"] then return k ++ " ROW LEVEL SECURITY"
  let mode ← if k == "ENABLE" then anyKey? ["ALWAYS", "REPLICA"] else pure none
  let what ← anyKey ["RULE", "TRIGGER"]
  return k ++ spaced [mode, some what] ++ " " ++ (← name).written

/-- Who a table belongs to. -/
def owner : Parser String := do
  match ← anyKey? ["CURRENT_USER", "CURRENT_ROLE", "SESSION_USER"] with
  | some k => return k
  | none => return (← name).written

/-- One change of a table. -/
def tableChange (g : Grammar) : Parser String := do
  match ← anyKey ["ADD", "RENAME", "DROP", "ALTER", "CHANGE", "MODIFY", "PARTITION", "SWAP",
    "OWNER", "ENABLE", "DISABLE", "SET"] with
  | "ADD" => addition g
  | "RENAME" => renamedPart
  | "DROP" => removal g
  | "ALTER" => columnChange g
  | "PARTITION" =>
    let old ← partitionValues g
    keys ["RENAME", "TO", "PARTITION"]
    return old ++ " RENAME TO " ++ (← partitionValues g)
  | "SWAP" =>
    key "WITH"
    return "SWAP WITH " ++ QualifiedName.written (← qualifiedName)
  | "OWNER" =>
    key "TO"
    return "OWNER TO " ++ (← owner)
  | "SET" =>
    key "TBLPROPERTIES"
    return "SET TBLPROPERTIES(" ++ Text.join ", " (← inParens (commaList (setting g))) ++ ")"
  | k => if k == "ENABLE" || k == "DISABLE" then switch k else columnReplacement g k

/-- A new place for the rows of a table. -/
def newLocation : Parser String := do
  if ← key? "LOCATION" then return " LOCATION " ++ (← name).written
  if ← keys? ["SET", "LOCATION"] then return " SET LOCATION " ++ (← name).written
  return ""

/-- What is changed, behind the first word. -/
def alter (g : Grammar) : Parser String := do
  match ← anyKey ["TABLE", "VIEW", "INDEX"] with
  | "TABLE" =>
    let optional ← ifExists
    let single ← key? "ONLY"
    let n ← qualifiedName
    let placement ← if ← keys? ["ON", "CLUSTER"] then do
        pure ("ON CLUSTER " ++ (← name).written ++ " ")
      else pure ""
    let list ← commaList (tableChange g)
    return "ALTER TABLE " ++ only optional "IF EXISTS " ++ only single "ONLY "
      ++ QualifiedName.written n ++ " " ++ placement ++ Text.join ", " list ++ (← newLocation)
  | "VIEW" =>
    let n ← qualifiedName
    let columns ← nameList?
    let settings ← settingsAfter g ["WITH"]
    key "AS"
    let q ← g.query
    return "ALTER VIEW " ++ QualifiedName.written n ++ writtenSettings " WITH " settings
      ++ writtenColumns columns ++ " AS " ++ q.written
  | _ =>
    let n ← qualifiedName
    keys ["RENAME", "TO"]
    return "ALTER INDEX " ++ QualifiedName.written n ++ " RENAME TO "
      ++ QualifiedName.written (← qualifiedName)

end Stencil.Sql.Grammar
