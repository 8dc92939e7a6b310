/-
Relations that reshape another one: pivots, row patterns and tables of documents.

A pivot turns the values of a column into columns, and an unpivot turns columns
into values.  A row pattern finds sequences of rows, and is written like a regular
expression over conditions that are defined behind it.  All of them are phrases;
the name that may follow is read by those who use them.
-/
import Stencil.Sql.Grammar.Call

namespace Stencil.Sql.Grammar

open Sql.Parser

/-! ### Pivots -/

/-- An expression with the name that follows AS, if one is given. -/
def withLabel (e : Expr) : Parser (List Piece) := do
  if ← key? "AS" then return [.expr e, .words (" AS " ++ (← name).written)]
  return [.expr e]

/-- A call of a function that is named by a single word, whatever its quotes. -/
def labelledCall (g : Grammar) : Parser (List Piece) := do
  let function ← wordName
  withLabel (← call g [⟨function.text, none⟩])

/-- The values that become columns. -/
def pivotValues (g : Grammar) : Parser (List Piece) := do
  if ← key? "ANY" then
    return .words "ANY" :: introduced " ORDER BY " (orderPieces (← orderKeys? g))
  if ← queryAhead then return [.query (← g.query)]
  return separated ", " (← commaList (do withLabel (← g.expr)))

/-- Values of a column that become columns, behind the first word. -/
def pivot (g : Grammar) : Parser (List Piece) := inParens do
  let calls ← commaList (labelledCall g)
  key "FOR"
  let column ← qualifiedName
  key "IN"
  let values ← inParens (pivotValues g)
  let filler ← if ← keys? ["DEFAULT", "ON", "NULL"] then do
      pure [.words " DEFAULT ON NULL (", .expr (← inParens g.expr), .words ")"]
    else pure []
  return .words " PIVOT(" :: (separated ", " calls
    ++ .words (" FOR " ++ QualifiedName.written column ++ " IN (") :: (values
      ++ .words ")" :: (filler ++ [.words ")"])))

/-- Columns that become values of one column, behind the first word. -/
def unpivot : Parser (List Piece) := inParens do
  let value ← name
  key "FOR"
  let column ← name
  key "IN"
  let columns ← nameList
  return [.words (" UNPIVOT(" ++ value.written ++ " FOR " ++ column.written ++ " IN ("
    ++ writtenNames columns ++ "))")]

/-! ### Row patterns -/

/-- A number between braces that bounds repetitions; a bound is a whole number. -/
def repetitionBound : Parser String := do return toString (← wholeNumber)

/-- How often a part of a pattern is repeated, if a sign for it comes next. -/
def repetition? : Parser (Option String) := do
  match ← peek? with
  | some (.symbol "*") => taking "*"
  | some (.symbol "+") => taking "+"
  | some (.placeholder "?") => taking "?"
  | some (.symbol "\x7b") =>
    let _ ← next
    let low ← if ← peekSymbol "," then pure "" else repetitionBound
    let more ← symbol? ","
    let high ← if !more || (!low.isEmpty && (← peekSymbol "\x7d")) then pure ""
      else repetitionBound
    symbol "\x7d"
    return some ("\x7b" ++ low ++ (if more then "," else "") ++ high ++ "\x7d")
  | _ => return none
where
  taking (mark : String) : Parser (Option String) := do
    let _ ← next
    return some mark

/-- The repetitions behind a part of a pattern. -/
def repetitions : Nat → Parser String
  | 0 => pure ""
  | n + 1 => do
    match ← repetition? with
    | some mark => return mark ++ (← repetitions n)
    | none => return ""

/-- A part of a pattern that is no repetition, alternative or sequence. -/
def patternPart (whole : Parser String) : Parser String := do
  match ← peek? with
  | some (.symbol "^") =>
    let _ ← next
    return "^"
  | some (.placeholder "$") =>
    let _ ← next
    return "$"
  | some (.symbol "\x7b") =>
    let _ ← next
    symbol "-"
    let n ← name
    symbol "-"
    symbol "\x7d"
    return "\x7b- " ++ n.written ++ " -\x7d"
  | some (.symbol "(") =>
    let p ← inParens whole
    return "( " ++ p ++ " )"
  | some (.word "PERMUTE" none _) =>
    let _ ← next
    return "PERMUTE(" ++ writtenNames (← nameList) ++ ")"
  | _ => return (← name).written

/-- A part of a pattern with its repetitions. -/
def repeatedPart (whole : Parser String) : Parser String := do
  let part ← patternPart whole
  return part ++ (← repetitions (← rounds))

/-- Parts that follow each other, up to a bar or the closing parenthesis. -/
def patternSequence (whole : Parser String) : Parser String := do
  let first ← repeatedPart whole
  let more : Parser Bool := do return !((← peekSymbol ")") || (← peekSymbol "|"))
  let rest ← manyWhile more (repeatedPart whole) (← rounds)
  return Text.join " " (first :: rest)

/-- A pattern with less than so many patterns inside each other. -/
def rowPattern : Nat → Parser String
  | 0 => failure
  | n + 1 => do
    let first ← patternSequence (rowPattern n)
    if ← symbol? "|" then return first ++ " | " ++ (← rowPattern n) else return first

/-- Which rows of a match are kept. -/
def rowsPerMatch : Parser (List Piece) := do
  if ← keys? ["ONE", "ROW", "PER", "MATCH"] then return [.words "ONE ROW PER MATCH "]
  if !(← keys? ["ALL", "ROWS", "PER", "MATCH"]) then return []
  let modes := [["SHOW", "EMPTY", "MATCHES"], ["OMIT", "EMPTY", "MATCHES"],
    ["WITH", "UNMATCHED", "ROWS"]]
  match ← anyKeys? modes with
  | some mode => return [.words ("ALL ROWS PER MATCH " ++ mode ++ " ")]
  | none => return [.words "ALL ROWS PER MATCH "]

/-- Where to look for the next match. -/
def afterMatch : Parser (List Piece) := do
  if !(← keys? ["AFTER", "MATCH", "SKIP"]) then return []
  let place ← if ← keys? ["PAST", "LAST", "ROW"] then pure "PAST LAST ROW"
    else if ← keys? ["TO", "NEXT", "ROW"] then pure " TO NEXT ROW"
    else do
      key "TO"
      let side ← anyKey ["FIRST", "LAST"]
      pure ("TO " ++ side ++ " " ++ (← name).written)
  return [.words ("AFTER MATCH SKIP " ++ place ++ " ")]

/-- A value that is taken from a match. -/
def measure (g : Grammar) : Parser (List Piece) := do
  let e ← g.expr
  let _ ← key? "AS"
  return [.expr e, .words (" AS " ++ (← name).written)]

/-- A condition with the name it has in the pattern. -/
def patternSymbol (g : Grammar) : Parser (List Piece) := do
  let n ← name
  key "AS"
  return [.words (n.written ++ " AS "), .expr (← g.expr)]

/-- A clause with a blank behind it, unless it is missing. -/
def blankBehind (clause : List Piece) : List Piece :=
  if clause.isEmpty then [] else clause ++ [.words " "]

/-- Sequences of rows that match a pattern, behind the first word. -/
def matchRecognize (g : Grammar) : Parser (List Piece) := inParens do
  let partition ← g.exprsAfter ["PARTITION", "BY"]
  let order ← orderKeys? g
  let measures ← if ← key? "MEASURES" then commaList (measure g) else pure []
  let kept ← rowsPerMatch
  let onward ← afterMatch
  key "PATTERN"
  let p ← inParens (do rowPattern (← rounds))
  key "DEFINE"
  let symbols ← commaList (patternSymbol g)
  return .words " MATCH_RECOGNIZE(" :: (
    blankBehind (introduced "PARTITION BY " (listed partition))
    ++ blankBehind (introduced "ORDER BY " (orderPieces order))
    ++ blankBehind (introduced "MEASURES " (separated ", " measures))
    ++ kept ++ onward ++ .words ("PATTERN (" ++ p ++ ") DEFINE ")
      :: (separated ", " symbols ++ [.words ")"]))

/-! ### Tables of documents -/

/-- What to put in place of a value that is missing or wrong, each case given in any order. -/
def documentFallbacks (onEmpty onError : String) : Nat → Parser String
  | 0 => pure (onEmpty ++ onError)
  | n + 1 => do
    match ← anyKey? ["NULL", "ERROR", "DEFAULT"] with
    | none => return onEmpty ++ onError
    | some k =>
      let lead ← if k == "DEFAULT" then do pure (" DEFAULT " ++ (← constant).written)
        else pure (" " ++ k)
      key "ON"
      if ← key? "EMPTY" then documentFallbacks (lead ++ " ON EMPTY") onError n
      else
        key "ERROR"
        documentFallbacks onEmpty (lead ++ " ON ERROR") n

/-- A column that is filled from a path in a document. -/
def documentColumn : Parser String := do
  let n ← name
  let t ← dataType
  let exist ← key? "EXISTS"
  key "PATH"
  let path ← constant
  return n.written ++ " " ++ t.written ++ (if exist then " EXISTS" else "") ++ " PATH "
    ++ path.written ++ (← documentFallbacks "" "" (← rounds))

/-- A document read as a table, behind the first word. -/
def documentTable (g : Grammar) : Parser (List Piece) := inParens do
  let document ← g.expr
  symbol ","
  let path ← constant
  key "COLUMNS"
  let columns ← inParens (commaList documentColumn)
  return [.words "JSON_TABLE(", .expr document, .words (", " ++ path.written ++ " COLUMNS("
    ++ Text.join ", " columns ++ "))")]

end Stencil.Sql.Grammar
