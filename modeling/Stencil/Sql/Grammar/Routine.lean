/-
Statements that create what runs: functions, macros, triggers and procedures.

All of them are read for their written form.  The clauses of a function may come
in any order, each at most once, and are written in one order.
-/
import Stencil.Sql.Grammar.Column

namespace Stencil.Sql.Grammar

open Sql.Parser

/-! ### Functions -/

/-- A default behind the words or signs that introduce one. -/
def parameterDefault (g : Grammar) : Parser String := do
  if ← key? "DEFAULT" then return " = " ++ (← g.expr).written
  if ← symbol? "=" then return " = " ++ (← g.expr).written
  return ""

/-- A parameter of a function; a word that is no type of the language is its name. -/
def routineParameter (g : Grammar) : Parser String := do
  let mode ← match ← anyKey? ["IN", "OUT", "INOUT"] with
    | some k => pure (k ++ " ")
    | none => pure ""
  let first ← peek?
  let t ← dataType
  let text ← if t.origin = .custom then
      match first.bind nameOf? with
      | some n => do pure (n.written ++ " " ++ (← dataType).written)
      | none => failure
    else pure t.written
  return mode ++ text ++ (← parameterDefault g)

/-- The name of a function with its parameters; empty parentheses are not written. -/
def routineSignature (g : Grammar) : Parser String := do
  let n ← qualifiedName
  if !(← symbol? "(") then return QualifiedName.written n
  let list ← commaListUntil ")" (routineParameter g)
  symbol ")"
  return QualifiedName.written n ++ only (!list.isEmpty) ("(" ++ Text.join ", " list ++ ")")

/-- The clauses of a function. -/
structure RoutineClauses where
  language : Option String := none
  behavior : Option String := none
  onNull : Option String := none
  parallel : Option String := none
  body : Option String := none

/-- The written form of the clauses. -/
def RoutineClauses.written (c : RoutineClauses) : String :=
  spaced [c.language, c.behavior, c.onNull, c.parallel, c.body]

/-- A clause that was not given before. -/
def once (old : Option String) (text : String) : Parser (Option String) :=
  if old.isSome then failure else pure (some text)

/-- The text of a function. -/
def routineText : Parser String := do
  match ← peek? with
  | some (.string (.dollar tag) s) =>
    let _ ← next
    return writtenString (.dollar tag) s
  | _ => return inSingleQuotes (← freeText)

/-- The clauses of a function, in any order. -/
def routineClauses (g : Grammar) (c : RoutineClauses) : Nat → Parser RoutineClauses
  | 0 => pure c
  | n + 1 => do
    if ← key? "AS" then
      return ← routineClauses g { c with body := ← once c.body ("AS " ++ (← routineText)) } n
    if ← key? "LANGUAGE" then
      let text := "LANGUAGE " ++ (← name).written
      return ← routineClauses g { c with language := ← once c.language text } n
    if let some k ← anyKey? ["IMMUTABLE", "STABLE", "VOLATILE"] then
      return ← routineClauses g { c with behavior := ← once c.behavior k } n
    let phrases := [["CALLED", "ON", "NULL", "INPUT"],
      ["RETURNS", "NULL", "ON", "NULL", "INPUT"], ["STRICT"]]
    if let some text ← anyKeys? phrases then
      return ← routineClauses g { c with onNull := ← once c.onNull text } n
    if ← key? "PARALLEL" then
      let k ← anyKey ["UNSAFE", "RESTRICTED", "SAFE"]
      return ← routineClauses g { c with parallel := ← once c.parallel ("PARALLEL " ++ k) } n
    if ← key? "RETURN" then
      let e ← g.expr
      return ← routineClauses g { c with body := ← once c.body ("RETURN " ++ e.written) } n
    return c

/-- A new function behind its first words. -/
def createFunction (g : Grammar) (lead : String) : Parser String := do
  let n ← qualifiedName
  symbol "("
  let list ← commaListUntil ")" (routineParameter g)
  symbol ")"
  let result ← if ← key? "RETURNS" then do pure (" RETURNS " ++ (← dataType).written) else pure ""
  let clauses ← routineClauses g {} (← rounds)
  return lead ++ "FUNCTION " ++ QualifiedName.written n
    ++ only (!list.isEmpty) ("(" ++ Text.join ", " list ++ ")") ++ result ++ clauses.written

/-! ### Macros -/

/-- A parameter of a macro. -/
def macroParameter (g : Grammar) : Parser String := do
  let n ← name
  if ← symbol? ":=" then return n.written ++ " := " ++ (← g.expr).written
  if ← symbol? "=>" then return n.written ++ " := " ++ (← g.expr).written
  return n.written

/-- A new macro behind its first words. -/
def createMacro (g : Grammar) (lead : String) : Parser String := do
  let n ← qualifiedName
  symbol "("
  let list ← commaListUntil ")" (macroParameter g)
  symbol ")"
  key "AS"
  let body ← if ← key? "TABLE" then do pure ("TABLE " ++ (← g.query).written)
    else do pure (← g.expr).written
  return lead ++ "MACRO " ++ QualifiedName.written n
    ++ only (!list.isEmpty) ("(" ++ Text.join ", " list ++ ")") ++ " AS " ++ body

/-! ### Triggers -/

/-- What sets a trigger off. -/
def triggerEvent : Parser String := do
  match ← anyKey ["INSERT", "UPDATE", "DELETE", "TRUNCATE"] with
  | "UPDATE" =>
    if ← key? "OF" then return "UPDATE OF " ++ writtenNames (← commaList name)
    return "UPDATE"
  | k => return k

/-- The rows before or after the change, under a name. -/
def transition : Parser String := do
  let k ← anyKey ["OLD", "NEW"]
  key "TABLE"
  let word ← key? "AS"
  return k ++ " TABLE" ++ only word " AS" ++ " " ++ QualifiedName.written (← qualifiedName)

/-- A new trigger behind its first words. -/
def createTrigger (g : Grammar) (lead : String) : Parser String := do
  let n ← qualifiedName
  let period ← match ← anyKeys? [["BEFORE"], ["AFTER"], ["INSTEAD", "OF"]] with
    | some text => pure text
    | none => failure
  let first ← triggerEvent
  let events ← manyWhile (key? "OR") triggerEvent (← rounds)
  key "ON"
  let table ← qualifiedName
  let other ← if ← key? "FROM" then do pure (" FROM " ++ QualifiedName.written (← qualifiedName))
    else pure ""
  let moment ← checking
  let transitions ← if ← key? "REFERENCING" then
      manyWhile (peekKeys ["OLD", "NEW"]) transition (← rounds)
    else pure []
  key "FOR"
  let each ← key? "EACH"
  let unit ← anyKey ["ROW", "STATEMENT"]
  let condition ← g.exprAfter? "WHEN"
  key "EXECUTE"
  let kind ← anyKey ["FUNCTION", "PROCEDURE"]
  let action ← routineSignature g
  return lead ++ "TRIGGER " ++ QualifiedName.written n ++ " " ++ period ++ " "
    ++ Text.join " OR " (first :: events) ++ " ON " ++ QualifiedName.written table ++ other
    ++ moment ++ only (!transitions.isEmpty) (" REFERENCING " ++ Text.join " " transitions)
    ++ " FOR " ++ only each "EACH " ++ unit ++ writtenAfter " WHEN " condition
    ++ " EXECUTE " ++ kind ++ " " ++ action

/-! ### Procedures -/

/-- Statements of a procedure up to its last word, with semicolons in between. -/
def procedureBody (g : Grammar) : Nat → Bool → Parser (List String)
  | 0, _ => failure
  | n + 1, delimited => do
    if ← symbol? ";" then procedureBody g n true
    else if !delimited then
      key "END"
      return []
    else
      let s ← g.statement
      return s.written :: (← procedureBody g n false)

/-- Parameters up to the closing parenthesis; the last comma may have nothing behind it. -/
def procedureParameters : Nat → Parser (List String)
  | 0 => failure
  | n + 1 => do
    if ← symbol? ")" then return []
    let p ← name
    let t ← dataType
    let text := p.written ++ " " ++ t.written
    if ← symbol? "," then return text :: (← procedureParameters n)
    symbol ")"
    return [text]

/-- A new procedure behind its first words. -/
def createProcedure (g : Grammar) (lead : String) : Parser String := do
  let n ← qualifiedName
  let parameters ← if ← symbol? "(" then do procedureParameters (← rounds) else pure []
  keys ["AS", "BEGIN"]
  let body ← procedureBody g (2 * (← rounds)) true
  return lead ++ "PROCEDURE " ++ QualifiedName.written n
    ++ only (!parameters.isEmpty) (" (" ++ Text.join ", " parameters ++ ")")
    ++ " AS BEGIN " ++ Text.join "; " body ++ " END"

end Stencil.Sql.Grammar
