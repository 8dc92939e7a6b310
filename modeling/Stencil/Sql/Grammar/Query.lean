/-
Queries: bodies combined by set operators, and the clauses around them.
-/
import Stencil.Sql.Grammar.Selection

namespace Stencil.Sql.Grammar

open Sql.Parser

/-! ### Named queries -/

/-- A query with a name. -/
def cte (g : Grammar) : Parser Cte := do
  let n ← name
  let columns ← nameList?
  key "AS"
  let q ← inParens g.query
  let source ← if ← key? "FROM" then do pure (some (← name)) else pure none
  return ⟨⟨n, columns⟩, q, source⟩

/-- The named queries in front of a query, and whether they may refer to themselves. -/
def ctes (g : Grammar) : Parser (Bool × List Cte) := do
  if !(← key? "WITH") then return (false, [])
  let recursive ← key? "RECURSIVE"
  return (recursive, ← commaList (cte g))

/-! ### Bodies -/

/-- A whole table; the name takes up to three tokens, of which a point is the second or the rest
are dropped. -/
def wholeTable : Parser Body := do
  let first ← wordName
  let second ← attempt next
  let third ← attempt next
  if second.any (Token.isSymbol · ".") then
    match third with
    | some (.word text ..) => return .other [.words ("TABLE " ++ first.text ++ "." ++ text)]
    | _ => failure
  return .other [.words ("TABLE " ++ first.text)]

/-- A body without set operators. -/
def simpleBody (g : Grammar) : Parser Body := do
  if ← key? "SELECT" then return .select (← selection g)
  if ← peekSymbol "(" then return .query (← inParens g.query)
  if ← key? "VALUES" then return ← valueRows g
  if ← key? "TABLE" then return ← wholeTable
  failure

/-- How rows that occur several times are counted; only a union matches columns by name. -/
def quantifier (op : SetOperator) : Parser SetQuantifier := do
  if op == .union then
    if ← keys? ["DISTINCT", "BY", "NAME"] then return .distinctByName
    if ← keys? ["ALL", "BY", "NAME"] then return .allByName
    if ← keys? ["BY", "NAME"] then return .byName
  if ← key? "ALL" then return .all
  if ← key? "DISTINCT" then return .distinct
  return .none

/-- The set operator that comes next, with its strength. -/
def setOperator? : Parser (Option (SetOperator × Nat)) := do
  match ← peek? with
  | some (.word _ none "UNION") => return some (.union, 10)
  | some (.word _ none "EXCEPT") => return some (.except, 10)
  | some (.word _ none "INTERSECT") => return some (.intersect, 20)
  | _ => return none

/-- A body with the set operators that bind more tightly than `floor` behind it. -/
def setOperations (right : Nat → Parser Body) (floor : Nat) : Nat → Body → Parser Body
  | 0, left => pure left
  | n + 1, left => do
    match ← setOperator? with
    | some (op, strength) =>
      if strength ≤ floor then return left
      let _ ← next
      let q ← quantifier op
      let operand ← right strength
      setOperations right floor n (.setOperation op q left operand)
    | none => return left

/-- A body whose operators bind more tightly than `floor`; the right side of an operator is read
with its own strength, so two levels suffice. -/
def bodyAt (g : Grammar) : Nat → Nat → Parser Body
  | 0, _ => failure
  | n + 1, floor => do
    let first ← simpleBody g
    setOperations (bodyAt g n) floor (← rounds) first

/-! ### Clauses behind the body -/

/-- What fills the other columns of filled rows. -/
def interpolation (g : Grammar) : Parser (List Piece) := do
  if !(← key? "INTERPOLATE") then return []
  if ← peekSymbol "(" then
    let list ← inParens (commaListUntil ")" do
      let column ← name
      let e ← g.exprAfter? "AS"
      pure (.words column.written :: introducedExpr " AS " e))
    return .words " INTERPOLATE (" :: (separated ", " list ++ [.words ")"])
  return [.words " INTERPOLATE"]

/-- A limit; to take all rows is no limit. -/
def limit? (g : Grammar) : Parser (Option Expr) := do
  if ← key? "ALL" then return none else return some (← g.expr)

/-- The unit behind an offset. -/
def offsetUnit : Parser String := do
  match ← anyKey? ["ROW", "ROWS"] with
  | some k => return " " ++ k
  | none => return ""

/-- The rows to skip and to take; each is given at most once, in any order. -/
structure Bounds where
  limit : Option Expr := none
  offset : Option Expr := none
  unit : String := ""

/-- One more look for a limit, an offset, or both in one clause. -/
def moreBounds (g : Grammar) (b : Bounds) : Parser Bounds := do
  let b ← if b.limit.isNone && (← peekKeys ["LIMIT"]) then do
      let _ ← next
      pure { b with limit := ← limit? g }
    else pure b
  let b ← if b.offset.isNone && (← peekKeys ["OFFSET"]) then do
      let _ ← next
      pure { b with offset := some (← g.expr), unit := ← offsetUnit }
    else pure b
  if b.limit.isSome && b.offset.isNone then
    if ← symbol? "," then
      return { limit := some (← g.expr), offset := b.limit, unit := "" }
  return b

/-- The settings of a query. -/
def settings : Parser (List Piece) := do
  if ← key? "SETTINGS" then return [.words (" SETTINGS " ++ (← plainSettings))] else return []

/-- The clause that fetches the first rows, behind its first word. -/
def fetched : Parser Fetch := do
  let _ ← anyKey ["FIRST", "NEXT"]
  let (quantity, percent) ← match ← anyKey? ["ROW", "ROWS"] with
    | some _ => pure (none, false)
    | none => do
      let n ← constant
      let percent ← key? "PERCENT"
      let _ ← anyKey ["ROW", "ROWS"]
      pure (some (.literal n), percent)
  if ← key? "ONLY" then return ⟨quantity, percent, false⟩
  keys ["WITH", "TIES"]
  return ⟨quantity, percent, true⟩

/-- A lock on the rows that are read. -/
def lock : Parser (List Piece) := do
  let k ← anyKey ["UPDATE", "SHARE"]
  let tables ← if ← key? "OF" then do pure (" OF " ++ QualifiedName.written (← qualifiedName))
    else pure ""
  let patience ←
    if ← key? "NOWAIT" then pure " NOWAIT"
    else if ← keys? ["SKIP", "LOCKED"] then pure " SKIP LOCKED"
    else pure ""
  return [.words (" FOR " ++ k ++ tables ++ patience)]

/-- A text between parentheses and quotes, if a parenthesis opens. -/
def elementName : Parser String := do
  if ← peekSymbol "(" then return "('" ++ (← inParens freeText) ++ "')" else return ""

/-- What the result has besides its rows when it is written as a document. -/
structure Wrapping where
  flags : List String := []
  root : Option String := none

/-- Further wishes about a document, each behind a comma; an unknown one is no wish. -/
def wrapping (flags : List String) (w : Wrapping) : Nat → Parser Wrapping
  | 0 => pure w
  | n + 1 => do
    if !(← symbol? ",") then return w
    match ← anyKey? (flags ++ ["ROOT"]) with
    | none => wrapping flags w n
    | some "ROOT" =>
      let root ← inParens freeText
      wrapping flags { w with root := some root } n
    | some k =>
      if k == "BINARY" then key "BASE64"
      wrapping flags { w with flags := k :: w.flags } n

/-- A wish behind a comma, if it was given. -/
def Wrapping.writtenFlag (w : Wrapping) (k text : String) : String :=
  if w.flags.contains k then ", " ++ text else ""

/-- The name of the outermost element behind a comma, if it was given. -/
def Wrapping.writtenRoot (w : Wrapping) : String :=
  match w.root with
  | some n => ", ROOT('" ++ n ++ "')"
  | none => ""

/-- The rows as elements of a document, behind the first word. -/
def elementDocument : Parser String := do
  let kind ← match ← anyKey ["RAW", "AUTO", "EXPLICIT", "PATH"] with
    | "RAW" => do pure ("RAW" ++ (← elementName))
    | "PATH" => do pure ("PATH" ++ (← elementName))
    | k => pure k
  let w ← wrapping ["ELEMENTS", "BINARY", "TYPE"] {} (← rounds)
  return " FOR XML " ++ kind ++ w.writtenFlag "BINARY" "BINARY BASE64"
    ++ w.writtenFlag "TYPE" "TYPE" ++ w.writtenRoot ++ w.writtenFlag "ELEMENTS" "ELEMENTS"

/-- The rows as objects of a document, behind the first word. -/
def objectDocument : Parser String := do
  let kind ← anyKey ["AUTO", "PATH"]
  let w ← wrapping ["INCLUDE_NULL_VALUES", "WITHOUT_ARRAY_WRAPPER"] {} (← rounds)
  return " FOR JSON " ++ kind ++ w.writtenRoot
    ++ w.writtenFlag "INCLUDE_NULL_VALUES" "INCLUDE_NULL_VALUES"
    ++ w.writtenFlag "WITHOUT_ARRAY_WRAPPER" "WITHOUT_ARRAY_WRAPPER"

/-- Locks, ended by the clause that says how the result is handed on if it is there. -/
def locks : Nat → Parser (List Piece)
  | 0 => pure []
  | n + 1 => do
    if !(← key? "FOR") then return []
    match ← anyKey? ["XML", "JSON", "BROWSE"] with
    | some "XML" => return [.words (← elementDocument)]
    | some "JSON" => return [.words (← objectDocument)]
    | some _ => return [.words " FOR BROWSE"]
    | none =>
      let first ← lock
      return first ++ (← locks n)

/-- The format of the result. -/
def format : Parser (List Piece) := do
  if !(← key? "FORMAT") then return []
  if ← key? "NULL" then return [.words " FORMAT NULL"]
  return [.words (" FORMAT " ++ (← name).written)]

/-- A body with the clauses behind it. -/
def orderedBody (g : Grammar) (recursive : Bool) (named : List Cte) : Parser Query := do
  let body ← bodyAt g 3 0
  let order ← orderKeys? g
  let interpolation ← if order.isEmpty then pure [] else interpolation g
  let bounds ← moreBounds g (← moreBounds g {})
  let limitKeys ← if ← key? "BY" then do pure (.words " BY " :: listed (← g.exprs)) else pure []
  let settings ← settings
  let fetch ← if ← key? "FETCH" then do pure (some (← fetched)) else pure none
  let locks ← locks (← rounds)
  let format ← format
  return {
    recursive, ctes := named, body, order, interpolation
    limit := bounds.limit
    offset := bounds.offset
    offsetUnit := bounds.unit
    limitTail := limitKeys ++ settings
    fetch
    tail := locks ++ format }

end Stencil.Sql.Grammar
