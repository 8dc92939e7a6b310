/-
Calls of functions, and the windows they range over.
-/
import Stencil.Sql.Grammar.Operator

namespace Stencil.Sql.Grammar

open Sql.Parser

/-! ### Ordering keys -/

/-- What fills the gaps between ordered values. -/
def fill (g : Grammar) : Parser (List Piece) := do
  if ← keys? ["WITH", "FILL"] then
    let start ← g.exprAfter? "FROM"
    let stop ← g.exprAfter? "TO"
    let step ← g.exprAfter? "STEP"
    return .words " WITH FILL" :: (introducedExpr " FROM " start ++ introducedExpr " TO " stop
      ++ introducedExpr " STEP " step)
  return []

/-- A direction, if one is given. -/
def direction? : Parser (Option Bool) := do
  match ← anyKey? ["ASC", "DESC"] with
  | some k => return some (k == "ASC")
  | none => return none

/-- A key to order by. -/
def orderKey (g : Grammar) : Parser OrderKey := do
  let key ← g.expr
  let ascending ← direction?
  let nulls ←
    if ← keys? ["NULLS", "FIRST"] then pure [.words " NULLS FIRST"]
    else if ← keys? ["NULLS", "LAST"] then pure [.words " NULLS LAST"]
    else pure []
  return ⟨key, ascending, nulls ++ (← fill g)⟩

/-- Keys to order by, if the words that introduce them come next. -/
def orderKeys? (g : Grammar) : Parser (List OrderKey) := do
  if ← keys? ["ORDER", "BY"] then commaList (orderKey g) else return []

/-! ### Units of time and intervals -/

/-- The units of time that are written in upper case. -/
def timeUnits : List String :=
  ["YEAR", "MONTH", "DAY", "DAYOFWEEK", "DAYOFYEAR", "DATE", "DATETIME", "HOUR", "MINUTE",
   "SECOND", "CENTURY", "DECADE", "DOY", "DOW", "EPOCH", "ISODOW", "ISOYEAR", "ISOWEEK", "JULIAN",
   "MICROSECOND", "MICROSECONDS", "MILLENIUM", "MILLENNIUM", "MILLISECOND", "MILLISECONDS",
   "NANOSECOND", "NANOSECONDS", "QUARTER", "TIME", "TIMEZONE", "TIMEZONE_ABBR", "TIMEZONE_HOUR",
   "TIMEZONE_MINUTE", "TIMEZONE_REGION"]

/-- The units that may follow the value of an interval. -/
def intervalUnits : List String :=
  ["YEAR", "MONTH", "WEEK", "DAY", "HOUR", "MINUTE", "SECOND", "CENTURY", "DECADE", "DOW", "DOY",
   "EPOCH", "ISODOW", "ISOYEAR", "JULIAN", "MICROSECOND", "MICROSECONDS", "MILLENIUM",
   "MILLENNIUM", "MILLISECOND", "MILLISECONDS", "NANOSECOND", "NANOSECONDS", "QUARTER", "TIMEZONE",
   "TIMEZONE_HOUR", "TIMEZONE_MINUTE"]

/-- A unit of time; any other name is taken as it is spelled. -/
def timeUnit : Parser String := do
  match ← next with
  | .word text quote k =>
    if quote.isNone && timeUnits.contains k then return k
    if quote.isNone && k == "WEEK" then
      if ← symbol? "(" then
        let day ← name
        symbol ")"
        return "WEEK(" ++ day.written ++ ")"
      return "WEEK"
    return Name.written ⟨text, quote⟩
  | .string .plain s => return Name.written ⟨s, some '\x27'⟩
  | _ => failure

/-- A number in parentheses, if a parenthesis opens. -/
def precision? : Parser (List Nat) := do
  if ← symbol? "(" then
    let n ← wholeNumber
    symbol ")"
    return [n]
  return []

/-- Up to two numbers in parentheses, if a parenthesis opens. -/
def precisions? : Parser (List Nat) := do
  if ← symbol? "(" then
    let n ← wholeNumber
    let more ← if ← symbol? "," then do pure [← wholeNumber] else pure []
    symbol ")"
    return n :: more
  return []

/-- Numbers in parentheses behind a blank. -/
def writtenPrecisions (ns : List Nat) : String :=
  if ns.isEmpty then "" else " (" ++ Text.join ", " (ns.map toString) ++ ")"

/-- The units of an interval with their precisions. -/
def intervalRange : Parser String := do
  if !(← peekKeys intervalUnits) then return writtenPrecisions (← precision?)
  let unit ← timeUnit
  if unit == "SECOND" then return " SECOND" ++ writtenPrecisions (← precisions?)
  let lead := " " ++ unit ++ writtenPrecisions (← precision?)
  if ← key? "TO" then
    let last ← timeUnit
    let fraction ← if last == "SECOND" then precision? else pure []
    return lead ++ " TO " ++ last ++ writtenPrecisions fraction
  return lead

/-- An interval whose value begins with the given operand; AND, OR and XOR end the value. -/
def intervalFrom (g : Grammar) (first : Expr) : Parser Expr := do
  let value ← operatorsFrom g ["AND", "OR", "XOR"] 0 (← rounds) first
  return .phrase [.words "INTERVAL ", .expr value, .words (← intervalRange)]

/-! ### Windows -/

/-- How far a frame reaches to one side. -/
def frameBound (g : Grammar) : Parser (List Piece) := do
  if ← keys? ["CURRENT", "ROW"] then return [.words "CURRENT ROW"]
  let distance ←
    if ← key? "UNBOUNDED" then pure (Piece.words "UNBOUNDED")
    else match ← peek? with
      | some (.string .plain s) =>
        let _ ← next
        pure (Piece.expr (← intervalFrom g (.literal (.text s))))
      | _ => pure (Piece.expr (← g.expr))
  let side ← anyKey ["PRECEDING", "FOLLOWING"]
  return [distance, .words (" " ++ side)]

/-- The rows around the current one that a window reaches. -/
def frame (g : Grammar) : Parser (List Piece) := do
  let unit ← anyKey ["ROWS", "RANGE", "GROUPS"]
  if ← key? "BETWEEN" then
    let start ← frameBound g
    key "AND"
    let stop ← frameBound g
    return .words (unit ++ " BETWEEN ") :: (start ++ .words " AND " :: stop)
  return .words (unit ++ " ") :: (← frameBound g)

/-- The inside of a window, up to the closing parenthesis. -/
def window (g : Grammar) : Parser (List Piece) := do
  let base ← match ← peek? with
    | some t => if Keyword.isFree t then do pure [[Piece.words (← name).written]] else pure []
    | none => pure []
  let partition ← g.exprsAfter ["PARTITION", "BY"]
  let order ← orderKeys? g
  let range ← if ← symbol? ")" then pure [] else do
    let f ← frame g
    symbol ")"
    pure [f]
  let parts := [introduced "PARTITION BY " (listed partition),
    introduced "ORDER BY " (orderPieces order)].filter (!·.isEmpty)
  return separated " " (base ++ parts ++ range)

/-! ### Arguments -/

/-- A name of several parts that ends in a star, from its first part on. -/
def starName? (first : Name) : Parser (Option QualifiedName) := do
  match ← attempt (parts (← rounds)) with
  | some rest => return some (first :: rest)
  | none => return none
where
  parts : Nat → Parser (List Name)
    | 0 => failure
    | n + 1 => do
      symbol "."
      if ← symbol? "*" then return []
      let part ← name
      let rest ← parts n
      return part :: rest

/-- Everything, everything of one relation, or an expression. -/
inductive Starred where
  | all
  | allOf (qualifier : QualifiedName)
  | one (e : Expr)

/-- An expression, or a star in its place. -/
def starred (g : Grammar) : Parser Starred := do
  if ← symbol? "*" then return .all
  let stars ← attempt do
    match ← starName? (← name) with
    | some q => pure q
    | none => failure
  match stars with
  | some q => return .allOf q
  | none => return .one (← g.expr)

/-- A starred item as a piece of a phrase. -/
def Starred.piece : Starred → Piece
  | .all => .words "*"
  | .allOf q => .words (QualifiedName.written q ++ ".*")
  | .one e => .expr e

/-- An argument, with its name if it has one. -/
def argument (g : Grammar) : Parser (List Piece) := do
  match ← peekAt? 1 with
  | some (.symbol s) =>
    if s == "=>" || s == ":=" then
      let n ← name
      symbol s
      return [.words (n.written ++ " " ++ s ++ " "), (← starred g).piece]
    else return [(← starred g).piece]
  | _ => return [(← starred g).piece]

/-- How calls treat missing values. -/
def nullTreatment? : Parser (Option String) := do
  match ← anyKey? ["RESPECT", "IGNORE"] with
  | some k =>
    key "NULLS"
    return some (k ++ " NULLS")
  | none => return none

/-- What happens when a list of texts becomes too long. -/
def onOverflow (g : Grammar) : Parser (List (List Piece)) := do
  if !(← keys? ["ON", "OVERFLOW"]) then return []
  if ← key? "ERROR" then return [[.words "ON OVERFLOW ERROR"]]
  key "TRUNCATE"
  let filler ← if ← peekKeys ["WITH", "WITHOUT"] then pure []
    else do pure [Piece.words " ", .expr (← g.expr)]
  let count ← anyKey ["WITH", "WITHOUT"]
  key "COUNT"
  return [.words "ON OVERFLOW TRUNCATE" :: (filler ++ [.words (" " ++ count ++ " COUNT")])]

/-- The clauses behind the arguments of a call. -/
def argumentClauses (g : Grammar) : Parser (Option String × List (List Piece)) := do
  let nulls ← nullTreatment?
  let order ← orderKeys? g
  let limit ← g.exprAfter? "LIMIT"
  let having ← if ← key? "HAVING" then do
      let bound ← anyKey ["MIN", "MAX"]
      pure [[Piece.words ("HAVING " ++ bound ++ " "), .expr (← g.expr)]]
    else pure []
  let separator ← if ← key? "SEPARATOR" then do
      pure [[Piece.words "SEPARATOR ", .expr (.literal (← constant))]]
    else pure []
  let overflow ← onOverflow g
  let leading := [nulls.toList.map Piece.words, introduced "ORDER BY " (orderPieces order),
    introducedExpr "LIMIT " limit].filter (!·.isEmpty)
  return (nulls, leading ++ having ++ separator ++ overflow)

/-- The arguments of a call behind the opening parenthesis, and how it treats missing values. -/
def arguments (g : Grammar) : Parser (List Piece × Option String) := do
  if ← symbol? ")" then return ([], none)
  let every ← key? "ALL"
  let distinct ← key? "DISTINCT"
  if every && distinct then failure
  let lead := if every then [.words "ALL "] else if distinct then [.words "DISTINCT "] else []
  let list ← commaList (argument g)
  let (nulls, clauses) ← argumentClauses g
  symbol ")"
  return (lead ++ separated ", " list ++ introduced " " (separated " " clauses), nulls)

/-- A call of the function, from its opening parenthesis on. -/
def call (g : Grammar) (function : QualifiedName) : Parser Expr := do
  symbol "("
  let (first, nulls) ← arguments g
  let (lists, nulls) ← if ← symbol? "(" then do
      let (second, nulls) ← arguments g
      pure (parenthesized first ++ parenthesized second, nulls)
    else pure (parenthesized first, nulls)
  let within ← if ← keys? ["WITHIN", "GROUP"] then
      inParens do
        keys ["ORDER", "BY"]
        let order ← commaList (orderKey g)
        pure (.words " WITHIN GROUP (ORDER BY " :: (orderPieces order ++ [.words ")"]))
    else pure []
  let treatment ← if nulls.isSome then pure [] else do
    match ← nullTreatment? with
    | some text => pure [Piece.words (" " ++ text)]
    | none => pure []
  let windowed ← if ← key? "OVER" then
      if ← symbol? "(" then do
        pure (.words " OVER (" :: ((← window g) ++ [.words ")"]))
      else do pure [Piece.words (" OVER " ++ (← name).written)]
    else pure []
  return .call function (lists ++ within ++ treatment ++ windowed) !windowed.isEmpty

end Stencil.Sql.Grammar
