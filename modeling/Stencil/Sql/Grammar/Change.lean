/-
Statements that change rows: insertion, update, deletion and merging.

An insertion is kept in parts because it is planned; the others are read for
their written form.
-/
import Stencil.Sql.Grammar.Query

namespace Stencil.Sql.Grammar

open Sql.Parser

/-- The written form of the items of a select list behind RETURNING. -/
def writtenReturning (items : List SelectItem) : String := writtenItems " RETURNING " items

/-- An expression behind words, written out. -/
def writtenAfter (lead : String) (e : Option Expr) : String := writtenOption lead e

/-! ### Assignments -/

/-- What is assigned to: a column, or several between parentheses. -/
def target : Parser String := do
  if ← peekSymbol "(" then
    let columns ← inParens (commaList qualifiedName)
    return "(" ++ Text.join ", " (columns.map QualifiedName.written) ++ ")"
  return QualifiedName.written (← qualifiedName)

/-- A new value for a column. -/
def assignment (g : Grammar) : Parser String := do
  let t ← target
  symbol "="
  return t ++ " = " ++ (← g.expr).written

/-- New values with commas in between. -/
def assignments (g : Grammar) : Parser String := do
  return Text.join ", " (← commaList (assignment g))

/-! ### Insertion -/

/-- The words between INSERT and the table. -/
def insertLead (verb : String) : Parser String := do
  let priority ← anyKey? ["LOW_PRIORITY", "DELAYED", "HIGH_PRIORITY"]
  let ignore ← key? "IGNORE"
  let overwrite ← key? "OVERWRITE"
  let into ← key? "INTO"
  let _ ← key? "LOCAL"
  let table ← key? "TABLE"
  let words := [priority, if ignore then some "IGNORE" else none,
    if overwrite then some "OVERWRITE" else none, if into then some "INTO" else none,
    if table then some "TABLE" else none].filterMap id
  return Text.join " " (verb :: words)

/-- The partition that takes the rows. -/
def insertPartition (g : Grammar) : Parser (List Piece) := do
  if ← key? "PARTITION" then
    return .words "PARTITION (" :: (listed (← inParens g.exprs) ++ [.words ") "])
  return []

/-- A name for the inserted row. -/
def rowAlias : Parser String := do
  if ← key? "AS" then
    let n ← qualifiedName
    let columns ← nameList?
    return " AS " ++ QualifiedName.written n ++ writtenColumns columns
  return ""

/-- Which rows are in conflict. -/
def conflictTarget : Parser String := do
  if ← keys? ["ON", "CONSTRAINT"] then
    return " ON CONSTRAINT " ++ QualifiedName.written (← qualifiedName)
  if ← peekSymbol "(" then return "(" ++ writtenNames (← nameList) ++ ")"
  return ""

/-- What to do about rows that are there already. -/
def conflict (g : Grammar) : Parser String := do
  if !(← key? "ON") then return ""
  if ← key? "CONFLICT" then
    let t ← conflictTarget
    key "DO"
    if ← key? "NOTHING" then return " ON CONFLICT" ++ t ++ " DO NOTHING"
    keys ["UPDATE", "SET"]
    let list ← assignments g
    let condition ← g.exprAfter? "WHERE"
    return " ON CONFLICT" ++ t ++ " DO UPDATE SET " ++ list ++ writtenAfter " WHERE " condition
  keys ["DUPLICATE", "KEY", "UPDATE"]
  return " ON DUPLICATE KEY UPDATE " ++ (← assignments g)

/-- An insertion behind its first word. -/
def insertion (g : Grammar) (verb : String) : Parser Insert := do
  let lead ← insertLead verb
  let table ← qualifiedName
  let (columns, partition, source) ← if ← keys? ["DEFAULT", "VALUES"] then pure ([], [], none)
    else do
      let columns ← nameList?
      let partition ← insertPartition g
      pure (columns, partition, some (← g.query))
  let row ← rowAlias
  let clash ← conflict g
  let back ← returning g
  return {
    lead, table, columns, partition, source
    tail := [.words (row ++ clash ++ writtenReturning back)] }

/-! ### Update, deletion and merging -/

/-- An update behind its first word. -/
def update (g : Grammar) : Parser String := do
  let table ← source g
  key "SET"
  let list ← assignments g
  let origin ← if ← key? "FROM" then do pure (" FROM " ++ (← source g).written) else pure ""
  let condition ← g.exprAfter? "WHERE"
  let back ← returning g
  return "UPDATE " ++ table.written ++ " SET " ++ list ++ origin
    ++ writtenAfter " WHERE " condition ++ writtenReturning back

/-- A deletion behind its first word. -/
def deletion (g : Grammar) : Parser String := do
  let lead := if ← key? "FROM" then "DELETE FROM " else "DELETE "
  let tables ← commaList (source g)
  let others ← if ← key? "USING" then commaList (source g) else pure []
  let condition ← g.exprAfter? "WHERE"
  let back ← returning g
  let order ← orderKeys? g
  let limit ← if ← key? "LIMIT" then limit? g else pure none
  return lead ++ writtenSources "" tables ++ writtenSources " USING " others
    ++ writtenAfter " WHERE " condition ++ writtenReturning back
    ++ writtenOrder " ORDER BY " order ++ writtenAfter " LIMIT " limit

/-- Which pairs of rows a clause of a merge is for, and whether they are new to the target. -/
def mergeCase : Parser (String × Bool) := do
  if ← key? "NOT" then
    key "MATCHED"
    if ← keys? ["BY", "SOURCE"] then return ("NOT MATCHED BY SOURCE", false)
    if ← keys? ["BY", "TARGET"] then return ("NOT MATCHED BY TARGET", true)
    return ("NOT MATCHED", true)
  key "MATCHED"
  return ("MATCHED", false)

/-- What a clause of a merge does; only new rows can be inserted, only others changed. -/
def mergeAction (g : Grammar) (isNew : Bool) : Parser String := do
  match ← anyKey ["UPDATE", "INSERT", "DELETE"] with
  | "UPDATE" =>
    if isNew then failure
    key "SET"
    return "UPDATE SET " ++ (← assignments g)
  | "DELETE" => if isNew then failure else return "DELETE"
  | _ =>
    if !isNew then failure
    let columns ← nameList?
    let lead := "INSERT " ++ (if columns.isEmpty then "" else "(" ++ writtenNames columns ++ ") ")
    if ← key? "ROW" then return lead ++ "ROW"
    key "VALUES"
    return lead ++ (← valueRows g).written

/-- A clause of a merge. -/
def mergeClause (g : Grammar) : Parser String := do
  key "WHEN"
  let (lead, isNew) ← mergeCase
  let condition ← g.exprAfter? "AND"
  key "THEN"
  return "WHEN " ++ lead ++ writtenAfter " AND " condition ++ " THEN " ++ (← mergeAction g isNew)

/-- A merge behind its first word. -/
def merge (g : Grammar) : Parser String := do
  let lead := if ← key? "INTO" then "MERGE INTO " else "MERGE "
  let table ← factor g
  key "USING"
  let other ← factor g
  key "ON"
  let condition ← g.expr
  let more : Parser Bool := do
    match ← peek? with
    | some t => return !t.isSymbol ";"
    | none => return false
  let clauses ← manyWhile more (mergeClause g) (← rounds)
  return lead ++ table.written ++ " USING " ++ other.written ++ " ON " ++ condition.written ++ " "
    ++ Text.join " " clauses

/-! ### Queries with a changing body -/

/-- A query whose body is given by its written form. -/
def queryOf (recursive : Bool) (named : List Cte) (text : String) : Query :=
  { Query.ofBody (.other [.words text]) with recursive, ctes := named }

/-- A query. -/
def queryBody (g : Grammar) : Parser Query := do
  let (recursive, named) ← ctes g
  if ← key? "INSERT" then return queryOf recursive named (← insertion g "INSERT").written
  if ← key? "UPDATE" then return queryOf recursive named (← update g)
  orderedBody g recursive named

end Stencil.Sql.Grammar
