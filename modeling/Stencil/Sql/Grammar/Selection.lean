/-
Selections: the select list and the clauses that go with it.
-/
import Stencil.Sql.Grammar.Source
import Stencil.Text.Case

namespace Stencil.Sql.Grammar

open Sql.Parser

/-! ### The select list -/

/-- Names behind a word, in parentheses or a single one. -/
def namesAfter (k : String) : Parser (List Piece) := do
  if !(← key? k) then return []
  if ← peekSymbol "(" then
    return [.words (" " ++ k ++ " (" ++ writtenNames (← nameList) ++ ")")]
  return [.words (" " ++ k ++ " " ++ (← name).written)]

/-- A column with its new name. -/
def renamed : Parser String := do
  let column ← name
  let _ ← key? "AS"
  return column.written ++ " AS " ++ (← name).written

/-- Columns with new names, in parentheses or a single one. -/
def renamings : Parser (List Piece) := do
  if !(← key? "RENAME") then return []
  if ← peekSymbol "(" then
    let list ← inParens (commaList renamed)
    return [.words (" RENAME (" ++ Text.join ", " list ++ ")")]
  return [.words (" RENAME " ++ (← renamed))]

/-- Expressions in place of columns. -/
def replacements (g : Grammar) : Parser (List Piece) := do
  if !(← key? "REPLACE") then return []
  let list ← inParens (commaList do
    let e ← g.expr
    let lead := if ← key? "AS" then " AS " else " "
    pure [Piece.expr e, .words (lead ++ (← name).written)])
  return .words " REPLACE (" :: (separated ", " list ++ [.words ")"])

/-- Which columns a star leaves out or changes. -/
def starOptions (g : Grammar) : Parser (List Piece) := do
  let first ← if ← key? "ILIKE" then do pure [Piece.words (" ILIKE " ++ (← quotedText))]
    else namesAfter "EXCLUDE"
  let except ← namesAfter "EXCEPT"
  let replaced ← replacements g
  return first ++ except ++ replaced ++ (← renamings)

/-- The unquoted word FROM, where an expression is missing. -/
def isBareFrom : Expr → Bool
  | .name ⟨text, none⟩ => Text.lower text == "from"
  | _ => false

/-- An item of a select list. -/
def selectItem (g : Grammar) : Parser SelectItem := do
  match ← starred g with
  | .all => return .wildcard (← starOptions g)
  | .allOf q => return .qualifiedWildcard q (← starOptions g)
  | .one e =>
    if isBareFrom e then failure
    match ← optionalAlias Keyword.reservedForColumns with
    | some n => return .aliased e n
    | none => return .expr e

/-- The items behind RETURNING, if there are any. -/
def returning (g : Grammar) : Parser (List SelectItem) := do
  if ← key? "RETURNING" then commaList (selectItem g) else return []

/-! ### Clauses in front of the select list -/

/-- Whether equal rows are dropped, and by which expressions they are compared. -/
def distinction (g : Grammar) : Parser (Bool × List Piece) := do
  let every ← key? "ALL"
  if !(← key? "DISTINCT") then return (false, [])
  if every then failure
  if ← key? "ON" then
    let es ← inParens (commaListUntil ")" g.expr)
    return (true, .words " ON (" :: (listed es ++ [.words ")"]))
  return (true, [])

/-- How many rows to take from the top. -/
def top (g : Grammar) : Parser (List Piece) := do
  if !(← key? "TOP") then return []
  let quantity ← if ← peekSymbol "(" then do
      let e ← inParens g.expr
      pure [Piece.words " TOP (", .expr e, .words ")"]
    else do pure [Piece.words (" TOP " ++ toString (← wholeNumber))]
  let percent ← key? "PERCENT"
  let ties ← keys? ["WITH", "TIES"]
  return quantity ++ [.words ((if percent then " PERCENT" else "")
    ++ (if ties then " WITH TIES" else ""))]

/-- The table that takes the selected rows. -/
def into : Parser String := do
  if !(← key? "INTO") then return ""
  let temporary := (← anyKey? ["TEMP", "TEMPORARY"]).isSome
  let unlogged ← key? "UNLOGGED"
  let table ← key? "TABLE"
  let n ← qualifiedName
  return " INTO" ++ (if temporary then " TEMPORARY" else "")
    ++ (if unlogged then " UNLOGGED" else "") ++ (if table then " TABLE " else " ")
    ++ QualifiedName.written n

/-! ### Clauses behind the sources -/

/-- A view that turns arrays into rows. -/
def lateralView (g : Grammar) : Parser (List Piece) := do
  let outer ← key? "OUTER"
  let e ← g.expr
  let n ← qualifiedName
  let columns ← commaList (optionalAlias ["WHERE", "GROUP", "CLUSTER", "HAVING", "LATERAL"])
  let names := columns.filterMap id
  return [.words (if outer then " LATERAL VIEW OUTER " else " LATERAL VIEW "), .expr e,
    .words (" " ++ QualifiedName.written n
      ++ (if names.isEmpty then "" else " AS " ++ writtenNames names))]

/-- Several keys that are grouped by together; a single one may stand without parentheses. -/
def groupingSet (g : Grammar) (lift : Bool) : Parser (List Expr) := do
  if lift && !(← peekSymbol "(") then return [← g.expr]
  inParens (commaListUntil ")" g.expr)

/-- The written form of a grouping set. -/
def setPhrase (lift : Bool) (es : List Expr) : List Piece :=
  if lift && es.length == 1 then listed es else parenthesized (listed es)

/-- Grouping sets behind the words that introduce them. -/
def groupingSets (g : Grammar) (lead : String) (lift : Bool) : Parser Expr := do
  let sets ← inParens (commaList (groupingSet g lift))
  return .phrase (.words (lead ++ " (") :: (separated ", " (sets.map (setPhrase lift))
    ++ [.words ")"]))

/-- A key to group by. -/
def groupingKey (g : Grammar) : Parser Expr := do
  if ← keys? ["GROUPING", "SETS"] then return ← groupingSets g "GROUPING SETS" false
  if ← key? "CUBE" then return ← groupingSets g "CUBE" true
  if ← key? "ROLLUP" then return ← groupingSets g "ROLLUP" true
  if ← symbols? ["(", ")"] then return .phrase [.words "()"]
  g.expr

/-- The totals that are to be added to the groups. -/
def totals : Parser String := do
  let list ← manyWhile (key? "WITH") (anyKey ["ROLLUP", "CUBE", "TOTALS"]) (← rounds)
  return String.join (list.map (" WITH " ++ ·))

/-- How rows are grouped. -/
def grouping (g : Grammar) : Parser Grouping := do
  if !(← keys? ["GROUP", "BY"]) then return .keys [] ""
  if ← key? "ALL" then return .all (← totals)
  let list ← commaList (groupingKey g)
  return .keys list (← totals)

/-- Expressions behind two words, written out with them. -/
def clauseBy (g : Grammar) (k : String) : Parser (List Piece) := do
  return introduced (" " ++ k ++ " BY ") (listed (← g.exprsAfter [k, "BY"]))

/-- A window with a name. -/
def namedWindow (g : Grammar) : Parser (List Piece) := do
  let n ← name
  key "AS"
  if ← symbol? "(" then
    return .words (n.written ++ " AS (") :: ((← window g) ++ [.words ")"])
  return [.words (n.written ++ " AS " ++ (← name).written)]

/-- Windows with names, if there are any. -/
def namedWindows (g : Grammar) : Parser (List Piece) := do
  if ← key? "WINDOW" then
    return .words " WINDOW " :: separated ", " (← commaList (namedWindow g))
  return []

/-- The condition on rows with their windows. -/
def qualification (g : Grammar) : Parser (List Piece) := do
  return introducedExpr " QUALIFY " (← g.exprAfter? "QUALIFY")

/-- Named windows and a condition on them, in either order. -/
def windowClauses (g : Grammar) : Parser (List Piece) := do
  let windows ← namedWindows g
  let condition ← qualification g
  if windows.isEmpty && !condition.isEmpty then return condition ++ (← namedWindows g)
  return windows ++ condition

/-- How rows follow each other in a hierarchy. -/
def hierarchy (g : Grammar) : Parser (List Piece) := do
  if ← keys? ["CONNECT", "BY"] then
    let links ← g.exprs
    keys ["START", "WITH"]
    let root ← g.expr
    return .words " START WITH " :: .expr root :: .words " CONNECT BY " :: listed links
  if ← key? "START" then
    key "WITH"
    let root ← g.expr
    keys ["CONNECT", "BY"]
    let links ← g.exprs
    return .words " START WITH " :: .expr root :: .words " CONNECT BY " :: listed links
  return []

/-- A selection behind its first word. -/
def selection (g : Grammar) : Parser Select := do
  let (distinct, distinctOn) ← distinction g
  let top ← top g
  let projection ← commaList (selectItem g)
  let into ← into
  let sources ← if ← key? "FROM" then commaList (source g) else pure []
  let views ← manyAfter ["LATERAL", "VIEW"] (lateralView g)
  let early ← g.exprAfter? "PREWHERE"
  let condition ← g.exprAfter? "WHERE"
  let grouping ← grouping g
  let cluster ← clauseBy g "CLUSTER"
  let distribute ← clauseBy g "DISTRIBUTE"
  let sort ← clauseBy g "SORT"
  let having ← g.exprAfter? "HAVING"
  let windows ← windowClauses g
  let links ← hierarchy g
  return {
    distinct, distinctOn, top, projection, into, sources
    views := views.flatten ++ introducedExpr " PREWHERE " early
    selection := condition
    grouping
    clustering := cluster ++ distribute ++ sort
    having
    tail := windows ++ links }

end Stencil.Sql.Grammar
