/-
Statements about stored data: copying it in and out, cursors over it, and upkeep.

All of them are read for their written form.
-/
import Stencil.Sql.Grammar.Column

namespace Stencil.Sql.Grammar

open Sql.Parser

/-! ### Copying -/

/-- A text of a single byte between quotes. -/
def quotedCharacter : Parser String := do
  let s ← freeText
  if s.utf8ByteSize = 1 then return "'" ++ s ++ "'" else failure

/-- A switch that is on unless it is said to be off. -/
def toggle (k : String) : Parser String := do
  match ← anyKey? ["TRUE", "FALSE"] with
  | some "FALSE" => return k ++ " FALSE"
  | _ => return k

/-- An option of a copy. -/
def copyOption : Parser String := do
  let k ← anyKey ["FORMAT", "FREEZE", "DELIMITER", "NULL", "HEADER", "QUOTE", "ESCAPE",
    "FORCE_QUOTE", "FORCE_NOT_NULL", "FORCE_NULL", "ENCODING"]
  match k with
  | "FORMAT" => return "FORMAT " ++ (← name).written
  | "FREEZE" | "HEADER" => toggle k
  | "DELIMITER" | "QUOTE" | "ESCAPE" => return k ++ " " ++ (← quotedCharacter)
  | "NULL" | "ENCODING" => return k ++ " " ++ inSingleQuotes (← freeText)
  | _ => return k ++ " (" ++ writtenNames (← nameList) ++ ")"

/-- An option of a copy of separated values. -/
def separatedValuesOption : Parser String := do
  match ← anyKey ["HEADER", "QUOTE", "ESCAPE", "FORCE"] with
  | "HEADER" => return "HEADER"
  | "FORCE" =>
    if ← keys? ["NOT", "NULL"] then
      return "FORCE NOT NULL " ++ writtenNames (← commaList name)
    key "QUOTE"
    return "FORCE QUOTE " ++ writtenNames (← commaList name)
  | k =>
    let _ ← key? "AS"
    return k ++ " " ++ (← quotedCharacter)

/-- Options in a row, as long as one can be read. -/
def manyOptions (option : Parser String) : Nat → Parser (List String)
  | 0 => pure []
  | n + 1 => do
    match ← attempt option with
    | some text => return text :: (← manyOptions option n)
    | none => return []

/-- An option of a copy that stands outside of parentheses. -/
def looseCopyOption : Parser String := do
  match ← anyKey ["BINARY", "DELIMITER", "NULL", "CSV"] with
  | "BINARY" => return "BINARY"
  | "DELIMITER" =>
    let _ ← key? "AS"
    return "DELIMITER " ++ (← quotedCharacter)
  | "NULL" =>
    let _ ← key? "AS"
    return "NULL " ++ inSingleQuotes (← freeText)
  | _ => return "CSV" ++ spaced ((← manyOptions separatedValuesOption (← rounds)).map some)

/-- What is copied, and whether it is a query. -/
def copySource (g : Grammar) : Parser (String × Bool) := do
  if ← peekSymbol "(" then return ("(" ++ (← inParens g.query).written ++ ")", true)
  let n ← qualifiedName
  return (QualifiedName.written n ++ writtenColumns (← nameList?), false)

/-- Where a copy comes from or goes to. -/
def copyTarget : Parser String := do
  match ← anyKey? ["STDIN", "STDOUT", "PROGRAM"] with
  | some "PROGRAM" => return "PROGRAM " ++ inSingleQuotes (← freeText)
  | some k => return k
  | none => return inSingleQuotes (← freeText)

/-- A copy behind its first word; rows that follow the statement itself are not read. -/
def copy (g : Grammar) : Parser String := do
  let (source, isQuery) ← copySource g
  let direction ← anyKey ["FROM", "TO"]
  if isQuery && direction == "FROM" then failure
  let target ← copyTarget
  let _ ← key? "WITH"
  let options ← if ← peekSymbol "(" then inParens (commaList copyOption) else pure []
  let loose ← manyOptions looseCopyOption (← rounds)
  if target == "STDIN" then
    symbol ";"
    if !(← atEnd) then failure
  return "COPY " ++ source ++ " " ++ direction ++ " " ++ target
    ++ only (!options.isEmpty) (" (" ++ Text.join ", " options ++ ")") ++ spaced (loose.map some)

/-- The result of a query that is stored elsewhere, behind the first word. -/
def unload (g : Grammar) : Parser String := do
  let q ← inParens g.query
  key "TO"
  let target ← name
  let settings ← settingsAfter g ["WITH"]
  return "UNLOAD(" ++ q.written ++ ") TO " ++ target.written
    ++ writtenSettings " WITH " settings

/-! ### Cursors -/

/-- A cursor behind the first word of its declaration. -/
def cursor (g : Grammar) : Parser String := do
  let n ← name
  let binary ← key? "BINARY"
  let sensitivity ← anyKey? ["INSENSITIVE", "ASENSITIVE"]
  let scroll ← anyKeys? [["SCROLL"], ["NO", "SCROLL"]]
  key "CURSOR"
  let hold ← anyKey? ["WITH", "WITHOUT"]
  if hold.isSome then key "HOLD"
  key "FOR"
  let q ← g.query
  return "DECLARE " ++ n.written ++ only binary " BINARY" ++ spaced [sensitivity, scroll]
    ++ " CURSOR" ++ spaced [hold.map (· ++ " HOLD")] ++ " FOR " ++ q.written

/-- Which rows a cursor fetches. -/
def fetchDirection : Parser String := do
  match ← anyKey? ["NEXT", "PRIOR", "FIRST", "LAST", "ABSOLUTE", "RELATIVE", "FORWARD", "BACKWARD",
    "ALL"] with
  | none => plainNumber
  | some k =>
    if k == "ABSOLUTE" || k == "RELATIVE" then return k ++ " " ++ (← plainNumber)
    if k == "FORWARD" || k == "BACKWARD" then
      if ← key? "ALL" then return k ++ " ALL" else return k ++ " " ++ (← plainNumber)
    return k

/-- Rows that a cursor fetches, behind the first word. -/
def fetchRows : Parser String := do
  let direction ← fetchDirection
  let _ ← anyKey ["FROM", "IN"]
  let n ← name
  let target ← if ← key? "INTO" then do pure (" INTO " ++ QualifiedName.written (← qualifiedName))
    else pure ""
  return "FETCH " ++ direction ++ " IN " ++ n.written ++ target

/-! ### Upkeep -/

/-- What is to be known about a table, each wish in any order. -/
structure Analysis where
  partitions : String := ""
  compute : Bool := false
  noScan : Bool := false
  cache : Bool := false
  columns : String := ""

/-- The wishes behind the table that is analysed. -/
def analysisFrom (g : Grammar) (a : Analysis) : Nat → Parser Analysis
  | 0 => pure a
  | n + 1 => do
    match ← anyKey? ["PARTITION", "FOR", "CACHE", "NOSCAN", "COMPUTE"] with
    | none => return a
    | some "PARTITION" =>
      let values ← inParens g.exprs
      analysisFrom g { a with partitions := " PARTITION (" ++ writtenExprs values ++ ")" } n
    | some "FOR" =>
      key "COLUMNS"
      let names := (← attempt (commaList name)).getD []
      let text := only (!names.isEmpty) (" " ++ writtenNames names)
      analysisFrom g { a with columns := " FOR COLUMNS" ++ text } n
    | some "CACHE" =>
      key "METADATA"
      analysisFrom g { a with cache := true } n
    | some "COMPUTE" =>
      key "STATISTICS"
      analysisFrom g { a with compute := true } n
    | some _ => analysisFrom g { a with noScan := true } n

/-- A table that is analysed, behind the first word. -/
def analyze (g : Grammar) : Parser String := do
  key "TABLE"
  let table ← qualifiedName
  let a ← analysisFrom g {} (← rounds)
  return "ANALYZE TABLE " ++ QualifiedName.written table ++ a.partitions
    ++ only a.compute " COMPUTE STATISTICS" ++ only a.noScan " NOSCAN"
    ++ only a.cache " CACHE METADATA" ++ a.columns

/-- A table whose partitions are checked against what is stored, behind the first word. -/
def repair : Parser String := do
  let mend ← key? "REPAIR"
  key "TABLE"
  let table ← qualifiedName
  let action ← anyKeys? [["ADD", "PARTITIONS"], ["DROP", "PARTITIONS"], ["SYNC", "PARTITIONS"]]
  return "MSCK " ++ only mend "REPAIR " ++ "TABLE " ++ QualifiedName.written table
    ++ spaced [action]

/-- A table whose parts are merged, behind the first word. -/
def optimize (g : Grammar) : Parser String := do
  key "TABLE"
  let table ← qualifiedName
  let placement ← if ← keys? ["ON", "CLUSTER"] then do
      pure (" ON CLUSTER " ++ (← name).written)
    else pure ""
  let partition ← if ← key? "PARTITION" then
      if ← key? "ID" then do pure (" PARTITION ID " ++ (← name).written)
      else do pure (" PARTITION " ++ (← g.expr).written)
    else pure ""
  let final ← key? "FINAL"
  let once ← if ← key? "DEDUPLICATE" then do
      pure (" DEDUPLICATE" ++ writtenAfter " BY " (← g.exprAfter? "BY"))
    else pure ""
  return "OPTIMIZE TABLE " ++ QualifiedName.written table ++ placement ++ partition
    ++ only final " FINAL" ++ once

/-- A query whose rows are kept in a cache, if anything follows. -/
def cachedQuery (g : Grammar) : Parser String := do
  if ← atEnd then return ""
  if ← key? "AS" then return " AS " ++ (← g.query).written
  match ← peek? with
  | some (.word ..) => return " " ++ (← g.query).written
  | _ => failure

/-- A table that is kept in a cache, behind the first word. -/
def cache (g : Grammar) : Parser String := do
  let flag ← if ← peekKeys ["TABLE"] then pure "" else do
    pure (QualifiedName.written (← qualifiedName) ++ " ")
  key "TABLE"
  let table ← qualifiedName
  let settings ← settingsAfter g ["OPTIONS"]
  let query ← cachedQuery g
  return "CACHE " ++ flag ++ "TABLE " ++ QualifiedName.written table
    ++ writtenSettings " OPTIONS" settings ++ query

/-- A table that is no longer kept in a cache, behind the first word. -/
def uncache : Parser String := do
  key "TABLE"
  let optional ← ifExists
  return "UNCACHE TABLE " ++ only optional "IF EXISTS " ++ QualifiedName.written (← qualifiedName)

/-- A database that is opened under a name, behind the first word. -/
def attach (g : Grammar) : Parser String := do
  let word ← key? "DATABASE"
  let file ← g.expr
  key "AS"
  return "ATTACH " ++ only word "DATABASE " ++ file.written ++ " AS " ++ (← name).written

/-- A database that is closed again, behind the first word. -/
def detach : Parser String := do
  let word ← key? "DATABASE"
  let optional ← ifExists
  return "DETACH" ++ only word " DATABASE" ++ only optional " IF EXISTS" ++ " " ++ (← name).written

end Stencil.Sql.Grammar
