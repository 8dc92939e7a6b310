/-
Reading SQL.

A text is a list of statements with semicolons in between.  Statements, queries
and expressions may be nested in each other up to a fixed depth; each of the
three takes one level.
-/
import Stencil.Sql.Grammar.Alteration
import Stencil.Sql.Grammar.Operand
import Stencil.Sql.Grammar.Session
import Stencil.Sql.Lexer
import Stencil.Error

namespace Stencil.Sql

open Sql.Parser

namespace Grammar

/-! ### Explanations -/

/-- The format of an explanation. -/
def explanationFormat : Parser String := do
  if ← key? "FORMAT" then return " FORMAT " ++ (← anyKey ["TEXT", "JSON", "GRAPHVIZ"])
  return ""

/-- A description of a table, behind its first word. -/
def description (k : String) : Parser Statement := do
  let format ← anyKey? ["EXTENDED", "FORMATTED"]
  return .other (k ++ spaced [format] ++ " " ++ QualifiedName.written (← qualifiedName))

/-- An explanation behind its first word; what is explained is not itself an explanation. -/
def explanation (g : Grammar) (k : String) : Parser Statement := do
  let analyze ← key? "ANALYZE"
  let verbose ← key? "VERBOSE"
  let format ← explanationFormat
  let again ← peekKeys ["EXPLAIN", "DESCRIBE", "DESC"]
  match ← attempt g.statement with
  | some s =>
    if again then failure
    return .explain (k ++ only analyze " ANALYZE" ++ only verbose " VERBOSE" ++ format) s
  | none => description k

/-! ### Statements -/

/-- A statement that begins with the word, behind it. -/
def statementAfter (g : Grammar) (k : String) : Parser Statement := do
  match k with
  | "EXPLAIN" | "DESCRIBE" | "DESC" => explanation g k
  | "INSERT" => return .insert (← insertion g "INSERT")
  | "REPLACE" => return .insert (← insertion g "REPLACE")
  | "UPDATE" => return .modify (← update g)
  | "DELETE" => return .modify (← deletion g)
  | "MERGE" => return .modify (← merge g)
  | "CREATE" => create g
  | "DROP" => drop g
  | "ALTER" => return .other (← alter g)
  | "TRUNCATE" => return .other (← truncate g)
  | "SET" => return .other (← set g)
  | "SHOW" => listing g
  | "START" | "BEGIN" | "COMMIT" | "END" | "ROLLBACK" | "SAVEPOINT" | "RELEASE" =>
    return .other (← transaction k)
  | _ => return .other (← housekeeping g k)

/-- A statement. -/
def statementBody (g : Grammar) : Parser Statement := do
  if (← peekSymbol "(") || (← peekKeys ["SELECT", "WITH", "VALUES"]) then
    return .query (← g.query)
  match ← next with
  | .word _ none k => statementAfter g k
  | _ => failure

/-! ### Levels -/

/-- The grammar with so many levels of nesting. -/
def ofDepth : Nat → Grammar
  | 0 => exhausted
  | n + 1 => {
      operand := expression (ofDepth n)
      query := queryBody (ofDepth n)
      statement := statementBody (ofDepth n) }

/-- How deeply statements, queries and expressions may be nested. -/
def maxDepth : Nat := 50

/-- The grammar of whole texts. -/
def whole : Grammar := ofDepth maxDepth

end Grammar

/-! ### Texts -/

/-- Statements up to the end of the text; a word END behind a statement ends the text early. -/
def statementsFrom : Nat → Bool → Parser (List Statement)
  | 0, _ => failure
  | n + 1, delimited => do
    if ← symbol? ";" then statementsFrom n true
    else if ← atEnd then return []
    else if delimited then
      let s ← Grammar.whole.statement
      let rest ← statementsFrom n false
      return s :: rest
    else if ← peekKeys ["END"] then return []
    else failure

/-- The statements that the tokens spell. -/
def Statement.ofTokens? (ts : List Token) : Option (List Statement) :=
  (statementsFrom (2 * ts.length + 2) true ts).map (·.1)

/-- The statements of a text. -/
def Statement.readAll (text : String) : Except Error (List Statement) :=
  match (Lexer.tokens? text.toList).bind Statement.ofTokens? with
  | some statements => .ok statements
  | none => .error .badSql

end Stencil.Sql
