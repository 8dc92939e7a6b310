/-
Levels of nesting.

Expressions, queries and statements contain each other.  A `Grammar` holds the
parsers for what may stand one level further inside; the parsers of a level are
built from it, so that the depth of nesting bounds every recursion.
-/
import Stencil.Sql.Parser
import Stencil.Sql.Statement
import Stencil.Sql.Phrase
import Stencil.Sql.Keyword

namespace Stencil.Sql

/-- Parsers for what stands one level further inside. -/
structure Grammar where
  /-- An expression whose operators bind more tightly than the given strength. -/
  operand : Nat → Parser Expr
  query : Parser Query
  statement : Parser Statement

namespace Grammar

open Sql.Parser

/-- Nothing can be read any further inside. -/
def exhausted : Grammar where
  operand _ := failure
  query := failure
  statement := failure

/-- An expression. -/
def expr (g : Grammar) : Parser Expr := g.operand 0

/-- Expressions with commas in between. -/
def exprs (g : Grammar) : Parser (List Expr) := commaList g.expr

/-- An expression, if the keyword that introduces it comes next. -/
def exprAfter? (g : Grammar) (k : String) : Parser (Option Expr) := do
  if ← key? k then return some (← g.expr) else return none

/-- Expressions, if the keywords that introduce them come next. -/
def exprsAfter (g : Grammar) (ks : List String) : Parser (List Expr) := do
  if ← keys? ks then g.exprs else return []

/-- A query begins here. -/
def queryAhead : Parser Bool := peekKeys ["SELECT", "WITH"]

/-! ### Constants -/

/-- A string, or a word that is no keyword, for its text. -/
def freeText : Parser String := do
  match ← next with
  | .string .plain s => pure s
  | .string .escaped s => pure s
  | .string .unicode s => pure s
  | .word text quote k =>
    if Keyword.isFree (.word text quote k) then pure text else failure
  | _ => failure

/-- A string in plain notation, written out again. -/
def quotedText : Parser String := do
  return inSingleQuotes (← plainText)
where
  plainText : Parser String := do
    match ← next with
    | .string .plain s => pure s
    | _ => failure

/-- The letters and marks around the text of a string. -/
def writtenString : StringNotation → String → String
  | .plain, s => inSingleQuotes s
  | .national, s => "N'" ++ s ++ "'"
  | .hex, s => "X'" ++ s ++ "'"
  | .escaped, s => "E'" ++ escapedText s ++ "'"
  | .unicode, s => "U&'" ++ unicodeText s ++ "'"
  | .bytes mark, s => "B" ++ String.singleton mark ++ s ++ String.singleton mark
  | .raw mark, s => "R" ++ String.singleton mark ++ s ++ String.singleton mark
  | .dollar tag, s => "$" ++ tag ++ "$" ++ s ++ "$" ++ tag ++ "$"
where
  escapedText (s : String) : String :=
    String.ofList (s.toList.flatMap fun c =>
      if c == '\x27' then ['\\', '\x27']
      else if c == '\\' then ['\\', '\\']
      else if c == '\n' then ['\\', 'n']
      else if c == '\t' then ['\\', 't']
      else if c == '\r' then ['\\', 'r']
      else [c])
  hexDigits (width n : Nat) : List Char :=
    let digits := (Nat.toDigits 16 n).map Char.toUpper
    List.replicate (width - digits.length) '0' ++ digits
  unicodeText (s : String) : String :=
    String.ofList (s.toList.flatMap fun c =>
      if c == '\x27' then ['\x27', '\x27']
      else if c == '\\' then ['\\', '\\']
      else if c.toNat < 128 then [c]
      else if c.toNat < 65536 then '\\' :: hexDigits 4 c.toNat
      else '\\' :: '+' :: hexDigits 6 c.toNat)

/-- The constant that a token stands for by itself. -/
def constantOf? : Token → Option Literal
  | .number text long => some (.number text long)
  | .string .plain s => some (.text s)
  | .string kind s => some (.verbatim (writtenString kind s))
  | .placeholder text => some (.verbatim text)
  | .word _ none "TRUE" => some (.boolean true)
  | .word _ none "FALSE" => some (.boolean false)
  | .word _ none "NULL" => some .null
  | .word text (some '\x22') _ => some (.verbatim (inQuotes '\x22' text))
  | _ => none

/-- A constant. -/
def constant : Parser Literal := do
  let t ← next
  if t.isSymbol ":" then return .verbatim (":" ++ (← name).text)
  if t.isSymbol "@" then return .verbatim ("@" ++ (← name).text)
  match constantOf? t with
  | some value => pure value
  | none => failure

end Grammar
end Stencil.Sql
