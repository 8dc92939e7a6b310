/-
Operands: names, constants, calls and everything that begins with a word of its own.

An operand stands alone or in front of operators.  The value of an interval is
read on the level of the interval itself, which is why `operandAt` counts how
many intervals may still begin at one place.
-/
import Stencil.Sql.Grammar.Call

namespace Stencil.Sql.Grammar

open Sql.Parser

/-! ### Constructs that begin with a keyword -/

/-- The branches of a case distinction behind the first WHEN. -/
def branches (g : Grammar) : Nat → Parser (List Piece)
  | 0 => failure
  | n + 1 => do
    let condition ← g.expr
    key "THEN"
    let result ← g.expr
    let branch := [Piece.words " WHEN ", .expr condition, .words " THEN ", .expr result]
    if ← key? "WHEN" then return branch ++ (← branches g n) else return branch

/-- A case distinction behind its first word. -/
def caseOf (g : Grammar) : Parser Expr := do
  let subject ← if ← key? "WHEN" then pure [] else do
    let e ← g.expr
    key "WHEN"
    pure [.words " ", .expr e]
  let list ← branches g (← rounds)
  let otherwise ← g.exprAfter? "ELSE"
  key "END"
  return .phrase (.words "CASE" :: (subject ++ list ++ introducedExpr " ELSE " otherwise
    ++ [.words " END"]))

/-- A conversion to a character set or to a type. -/
def conversion (g : Grammar) : Parser Expr := inParens do
  let e ← g.expr
  if ← key? "USING" then
    let charset := QualifiedName.written (← qualifiedName)
    return .phrase [.words "CONVERT(", .expr e, .words (" USING " ++ charset ++ ")")]
  symbol ","
  let t ← dataType
  let charset ← if ← keys? ["CHARACTER", "SET"] then do
      pure (" CHARACTER SET " ++ QualifiedName.written (← qualifiedName))
    else pure ""
  return .phrase [.words "CONVERT(", .expr e, .words (", " ++ t.written ++ charset ++ ")")]

/-- The format of a cast, if one is given. -/
def castFormat : Parser String := do
  if ← key? "FORMAT" then
    let format ← constant
    if ← keys? ["AT", "TIME", "ZONE"] then
      let zone ← constant
      return " FORMAT " ++ format.written ++ " AT TIME ZONE " ++ zone.written
    return " FORMAT " ++ format.written
  return ""

/-- A cast behind its first word. -/
def castAs (g : Grammar) (form : CastForm) : Parser Expr := inParens do
  let e ← g.expr
  key "AS"
  let t ← dataType
  return .cast form e (t.written ++ (← castFormat))

/-- Whether a query has rows. -/
def existence (g : Grammar) (lead : String) : Parser Expr := do
  let q ← inParens g.query
  return .phrase [.words (lead ++ "EXISTS ("), .query q, .words ")"]

/-- A part of a time. -/
def extraction (g : Grammar) : Parser Expr := inParens do
  let unit ← timeUnit
  let mark ← if ← key? "FROM" then pure " FROM " else do
    symbol ","
    pure ", "
  let e ← g.expr
  return .phrase [.words ("EXTRACT(" ++ unit ++ mark), .expr e, .words ")"]

/-- The next whole number above or below. -/
def rounding (g : Grammar) (function : String) : Parser Expr := inParens do
  let e ← g.expr
  let scale ←
    if ← key? "TO" then do pure (" TO " ++ (← timeUnit))
    else if ← symbol? "," then do
      match ← constant with
      | .number text long => pure (", " ++ Literal.written (.number text long))
      | _ => failure
    else pure ""
  return .phrase [.words (function ++ "("), .expr e, .words (scale ++ ")")]

/-- The place of one text in another, or a call of a function of that name. -/
def position (g : Grammar) (function : Name) : Parser Expr := do
  let place ← attempt (inParens do
    let e ← g.operand strength.comparison
    key "IN"
    let whole ← g.expr
    pure (Expr.phrase [.words "POSITION(", .expr e, .words " IN ", .expr whole, .words ")"]))
  match place with
  | some e => return e
  | none => call g [function]

/-- A part of a text. -/
def substring (g : Grammar) : Parser Expr := inParens do
  let e ← g.expr
  let commas ← symbol? ","
  let start ← if commas then do pure (some (← g.expr)) else g.exprAfter? "FROM"
  let length ←
    if ← key? "FOR" then do pure (some (← g.expr))
    else if ← symbol? "," then do pure (some (← g.expr))
    else pure none
  return .phrase (.words "SUBSTRING(" :: .expr e
    :: (introducedExpr (if commas then ", " else " FROM ") start
      ++ introducedExpr (if commas then ", " else " FOR ") length ++ [.words ")"]))

/-- A text with a part replaced. -/
def overlay (g : Grammar) : Parser Expr := inParens do
  let e ← g.expr
  key "PLACING"
  let part ← g.expr
  key "FROM"
  let start ← g.expr
  let length ← g.exprAfter? "FOR"
  return .phrase ([.words "OVERLAY(", .expr e, .words " PLACING ", .expr part, .words " FROM ",
    .expr start] ++ introducedExpr " FOR " length ++ [.words ")"])

/-- A text without what stands at its ends. -/
def trimming (g : Grammar) : Parser Expr := inParens do
  let side ← anyKey? ["BOTH", "LEADING", "TRAILING"]
  let lead := match side with
    | some k => k ++ " "
    | none => ""
  let e ← g.expr
  if ← key? "FROM" then
    let whole ← g.expr
    return .phrase [.words ("TRIM(" ++ lead), .expr e, .words " FROM ", .expr whole, .words ")"]
  if ← symbol? "," then
    let characters ← g.exprs
    return .phrase (.words "TRIM(" :: .expr e :: .words ", " :: (listed characters ++ [.words ")"]))
  return .phrase [.words ("TRIM(" ++ lead), .expr e, .words ")"]

/-- The elements of an array behind the opening bracket. -/
def arrayOfElements (g : Grammar) (lead : String) : Parser Expr := do
  let elements ← commaListUntil "]" g.expr
  symbol "]"
  return .phrase (.words (lead ++ "[") :: (listed elements ++ [.words "]"]))

/-- How a search in texts is to be done. -/
def searchMode : Parser String := do
  if ← keys? ["IN", "NATURAL", "LANGUAGE", "MODE"] then
    if ← keys? ["WITH", "QUERY", "EXPANSION"] then
      return " IN NATURAL LANGUAGE MODE WITH QUERY EXPANSION"
    return " IN NATURAL LANGUAGE MODE"
  if ← keys? ["IN", "BOOLEAN", "MODE"] then return " IN BOOLEAN MODE"
  if ← keys? ["WITH", "QUERY", "EXPANSION"] then return " WITH QUERY EXPANSION"
  return ""

/-- A search in texts. -/
def textSearch : Parser Expr := do
  let columns ← nameList
  key "AGAINST"
  inParens do
    let value ← constant
    let mode ← searchMode
    return .phrase [.words ("MATCH (" ++ writtenNames columns ++ ") AGAINST (" ++ value.written
      ++ mode ++ ")")]

/-- A field of a record, with its name if the type does not give it. -/
def recordValue (g : Grammar) (typed : Bool) : Parser (List Piece) := do
  let e ← g.expr
  if ← key? "AS" then
    if typed then failure
    return [.expr e, .words (" AS " ++ (← name).written)]
  return [.expr e]

/-- A record behind its first word. -/
def record (g : Grammar) : Parser Expr := do
  let (fields, taken) ← recordType (dataTypeAt (← rounds))
  if taken then failure
  let values ← inParens (commaList (recordValue g (!fields.isEmpty)))
  return .phrase (.words (writtenRecord fields ++ "(") :: (separated ", " values ++ [.words ")"]))

/-- An entry of a map. -/
def mapEntry (g : Grammar) : Parser (List Piece) := do
  let k ← g.expr
  symbol ":"
  return [.expr k, .words ": ", .expr (← g.expr)]

/-- An entry of a dictionary. -/
def dictionaryEntry (g : Grammar) : Parser (List Piece) := do
  let k ← name
  symbol ":"
  return [.words (k.written ++ ": "), .expr (← g.expr)]

/-- Entries between braces. -/
def inBraces (lead : String) (entry : Parser (List Piece)) : Parser Expr := do
  symbol "\x7b"
  let entries ← commaList entry
  symbol "\x7d"
  return .phrase (.words (lead ++ "\x7b") :: (separated ", " entries ++ [.words "\x7d"]))

/-- A function of the current time, with or without arguments. -/
def timeFunction (g : Grammar) (function : Name) : Parser Expr := do
  if ← symbol? "(" then return .call [function] (parenthesized (← arguments g).1) false
  return .call [function] [] false

/-- What follows NOT in front of an operand. -/
def negated (g : Grammar) : Parser Expr := do
  if ← key? "EXISTS" then existence g "NOT "
  else return .unary .not (← g.operand strength.negation)

/-! ### Names -/

/-- A word as the first part of a name, a call, or a constant with a character set. -/
def nameOrCall (g : Grammar) (first : Name) : Parser Expr := do
  match ← peek? with
  | some (.symbol ".") =>
    let rest ← manyWhile (symbol? ".") name (← rounds)
    if ← peekSymbol "(" then call g (first :: rest) else return .qualified (first :: rest)
  | some (.symbol "(") => call g [first]
  | some (.string kind s) =>
    if first.text.startsWith "_" && (kind == .plain || kind == .hex) then
      let _ ← next
      return .phrase [.words (first.text ++ " " ++ writtenString kind s)]
    return .name first
  | _ => return .name first

/-- What begins with a word, behind that word. -/
def afterWord (g : Grammar) (interval : Parser Expr) (word : Name) (k : String) : Parser Expr := do
  let follower ← peek?
  let opens (s : String) : Bool := follower.any (Token.isSymbol · s)
  match k with
  | "TRUE" => return .literal (.boolean true)
  | "FALSE" => return .literal (.boolean false)
  | "NULL" => return .literal .null
  | "CURRENT_CATALOG" | "CURRENT_USER" | "SESSION_USER" | "USER" => return .call [word] [] false
  | "CURRENT_TIMESTAMP" | "CURRENT_TIME" | "CURRENT_DATE" | "LOCALTIME" | "LOCALTIMESTAMP" =>
    timeFunction g word
  | "CASE" => caseOf g
  | "CONVERT" => conversion g
  | "CAST" => castAs g .cast
  | "TRY_CAST" => castAs g .tryCast
  | "SAFE_CAST" => castAs g .safeCast
  | "EXISTS" => existence g ""
  | "EXTRACT" => extraction g
  | "CEIL" | "FLOOR" => rounding g k
  | "POSITION" => if opens "(" then position g word else nameOrCall g word
  | "SUBSTRING" => substring g
  | "OVERLAY" => overlay g
  | "TRIM" => trimming g
  | "INTERVAL" => interval
  | "NOT" => negated g
  | "MATCH" => textSearch
  | "STRUCT" => record g
  | "ARRAY" =>
    if opens "[" then
      symbol "["
      arrayOfElements g "ARRAY"
    else if opens "(" then
      let q ← inParens g.query
      return .call [word] [.words "(", .query q, .words ")"] false
    else nameOrCall g word
  | "MAP" => if opens "\x7b" then inBraces "MAP " (mapEntry g) else nameOrCall g word
  | _ => nameOrCall g word

/-! ### Operands -/

/-- A type with a text of that type. -/
def typedText (interval : Parser Expr) : Parser Expr := do
  let t ← dataType
  match t.origin with
  | .interval => interval
  | .custom => failure
  | .language => return .phrase [.words (t.written ++ " " ++ inSingleQuotes (← freeText))]

/-- A query, an expression or several of them, behind an opening parenthesis. -/
def afterParenthesis (g : Grammar) : Parser Expr := do
  let inner ← if ← queryAhead then do
      pure (Expr.phrase [.words "(", .query (← g.query), .words ")"])
    else do
      match ← g.exprs with
      | [e] => pure (.nested e)
      | es => pure (.phrase (parenthesized (listed es)))
  symbol ")"
  if ← symbol? "." then return .phrase [.expr inner, .words ("." ++ (← wordName).written)]
  return inner

/-- What begins with the symbol, behind it. -/
def afterSymbol (g : Grammar) (s : String) : Parser Expr := do
  match s with
  | "[" => arrayOfElements g ""
  | "-" => return .unary .minus (← g.operand strength.product)
  | "+" => return .unary .plus (← g.operand strength.product)
  | "(" => afterParenthesis g
  | ":" => return .literal (.verbatim (":" ++ (← name).text))
  | "@" => return .literal (.verbatim ("@" ++ (← name).text))
  | _ => failure

/-- An operand that does not begin with a type. -/
def plainOperand (g : Grammar) (interval : Parser Expr) : Parser Expr := do
  if ← peekSymbol "\x7b" then return ← inBraces "" (dictionaryEntry g)
  match ← next with
  | .word text quote k =>
    afterWord g interval ⟨text, quote⟩ (if quote.isNone then k else "")
  | .symbol s => afterSymbol g s
  | .stray _ => failure
  | t =>
    match constantOf? t with
    | some value => return .literal value
    | none => failure

/-- The name of an ordering of texts behind an operand. -/
def collated (e : Expr) : Parser Expr := do
  if ← key? "COLLATE" then
    return .phrase [.expr e, .words (" COLLATE " ++ QualifiedName.written (← qualifiedName))]
  return e

/-- An operand in which at most so many intervals begin at one place. -/
def operandAt (g : Grammar) : Nat → Parser Expr
  | 0 => failure
  | n + 1 => do
    let interval := do intervalFrom g (← operandAt g n)
    match ← attempt (typedText interval) with
    | some e => return e
    | none => collated (← plainOperand g interval)

/-- An expression whose operators bind more tightly than `floor`. -/
def expression (g : Grammar) (floor : Nat) : Parser Expr := do
  let first ← operandAt g (← rounds)
  operators g floor first

end Stencil.Sql.Grammar
