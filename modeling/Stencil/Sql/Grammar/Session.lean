/-
Statements about the session: settings, listings, transactions and rights.

All of them are read for their written form; the listing of tables is kept apart
because the catalog answers it.
-/
import Stencil.Sql.Grammar.Definition
import Stencil.Sql.Grammar.Maintenance

namespace Stencil.Sql.Grammar

open Sql.Parser

/-! ### Transactions -/

/-- A mode of a transaction, if one comes next. -/
def mode? : Parser (Option String) := do
  if ← keys? ["ISOLATION", "LEVEL"] then
    if ← keys? ["READ", "UNCOMMITTED"] then return some "ISOLATION LEVEL READ UNCOMMITTED"
    if ← keys? ["READ", "COMMITTED"] then return some "ISOLATION LEVEL READ COMMITTED"
    if ← keys? ["REPEATABLE", "READ"] then return some "ISOLATION LEVEL REPEATABLE READ"
    key "SERIALIZABLE"
    return some "ISOLATION LEVEL SERIALIZABLE"
  if ← keys? ["READ", "ONLY"] then return some "READ ONLY"
  if ← keys? ["READ", "WRITE"] then return some "READ WRITE"
  return none

/-- Modes of a transaction; behind a comma another one has to follow. -/
def modesFrom (required : Bool) : Nat → Parser (List String)
  | 0 => pure []
  | n + 1 => do
    match ← mode? with
    | some m => return m :: (← modesFrom (← symbol? ",") n)
    | none => if required then failure else return []

/-- Modes of a transaction behind a blank, if there are any. -/
def modes : Parser String := do
  let list ← modesFrom false (← rounds)
  return only (!list.isEmpty) (" " ++ Text.join ", " list)

/-- Whether another transaction follows at once. -/
def chain : Parser String := do
  let _ ← anyKey? ["TRANSACTION", "WORK"]
  if ← key? "AND" then
    let no ← key? "NO"
    key "CHAIN"
    return only (!no) " AND CHAIN"
  return ""

/-- A statement about transactions that begins with the word, behind it. -/
def transaction (k : String) : Parser String := do
  match k with
  | "START" =>
    key "TRANSACTION"
    return "START TRANSACTION" ++ (← modes)
  | "BEGIN" =>
    let _ ← anyKey? ["TRANSACTION", "WORK"]
    return "BEGIN TRANSACTION" ++ (← modes)
  | "COMMIT" | "END" => return "COMMIT" ++ (← chain)
  | "ROLLBACK" =>
    let again ← chain
    if ← key? "TO" then
      let _ ← key? "SAVEPOINT"
      return "ROLLBACK" ++ again ++ " TO SAVEPOINT " ++ (← name).written
    return "ROLLBACK" ++ again
  | "SAVEPOINT" => return "SAVEPOINT " ++ (← name).written
  | "RELEASE" =>
    let _ ← key? "SAVEPOINT"
    return "RELEASE SAVEPOINT " ++ (← name).written
  | _ => failure

/-! ### Settings -/

/-- The role of the session. -/
def setRole (scope : String) : Parser String := do
  key "ROLE"
  let role ← if ← key? "NONE" then pure "NONE" else do pure (← name).written
  return "SET" ++ scope ++ " ROLE " ++ role

/-- The character set of the session. -/
def setNames : Parser String := do
  if ← key? "DEFAULT" then return "SET NAMES DEFAULT"
  let charset ← freeText
  let collation ← if ← key? "COLLATE" then do pure (" COLLATE " ++ (← freeText)) else pure ""
  return "SET NAMES " ++ charset ++ collation

/-- A value for a variable. -/
def settingValue (g : Grammar) : Parser String := do
  if ← queryAhead then return "(" ++ (← g.query).written ++ ")"
  return (← g.expr).written

/-- Several variables at once. -/
def setSeveral (g : Grammar) (lead : String) : Parser String := do
  let names ← nameList
  if !(← symbol? "=") then key "TO"
  let values ← inParens (commaList (settingValue g))
  return lead ++ "(" ++ writtenNames names ++ ") = (" ++ Text.join ", " values ++ ")"

/-- A variable and its value, or one of the settings that have a form of their own. -/
def setOne (g : Grammar) (limited near : Bool) (lead : String) : Parser String := do
  let setting ← if ← keys? ["TIME", "ZONE"] then pure "TIMEZONE"
    else do pure (QualifiedName.written (← qualifiedName))
  if Text.sameIgnoringCase setting "NAMES" then return ← setNames
  let assigned ← if ← symbol? "=" then pure true else key? "TO"
  if assigned then
    return lead ++ setting ++ " = " ++ Text.join ", " (← commaList (settingValue g))
  if Text.sameIgnoringCase setting "TIMEZONE" then
    return "SET " ++ only near "LOCAL " ++ "TIME ZONE " ++ (← g.expr).written
  if setting == "CHARACTERISTICS" then
    keys ["AS", "TRANSACTION"]
    return "SET SESSION CHARACTERISTICS AS TRANSACTION" ++ (← modes)
  if setting == "TRANSACTION" && !limited then
    if ← key? "SNAPSHOT" then return "SET TRANSACTION SNAPSHOT " ++ (← constant).written
    return "SET TRANSACTION" ++ (← modes)
  failure

/-- A setting of the session behind its first word. -/
def set (g : Grammar) : Parser String := do
  let scope ← anyKey? ["SESSION", "LOCAL", "HIVEVAR"]
  let near := scope == some "LOCAL"
  let lead := "SET " ++ only near "LOCAL " ++ only (scope == some "HIVEVAR") "HIVEVAR:"
  if scope == some "HIVEVAR" then symbol ":"
  else if let some text ← attempt (setRole (spaced [scope])) then return text
  if ← peekSymbol "(" then setSeveral g lead else setOne g scope.isSome near lead

/-! ### Listings -/

/-- Which of the listed things to show. -/
def listingFilter (g : Grammar) : Parser String := do
  match ← anyKey? ["LIKE", "ILIKE"] with
  | some k => return " " ++ k ++ " " ++ inSingleQuotes (← freeText)
  | none => return writtenAfter " WHERE " (← g.exprAfter? "WHERE")

/-- The columns of a table. -/
def showColumns (g : Grammar) (lead : String) : Parser String := do
  let _ ← anyKey ["FROM", "IN"]
  let table ← qualifiedName
  let database ← match ← anyKey? ["FROM", "IN"] with
    | some _ => do pure [← name]
    | none => pure []
  return lead ++ "COLUMNS FROM " ++ QualifiedName.written (database ++ table)
    ++ (← listingFilter g)

/-- The words of a variable: everything up to an equals sign or the end of the text. -/
def variableWords : Parser String := fun ts =>
  let taken := ts.takeWhile fun t => !t.isSymbol "="
  let words := taken.filterMap fun t =>
    match t with
    | .word text quote _ => some (Name.written ⟨text, quote⟩)
    | _ => none
  some (String.join (words.map (" " ++ ·)), ts.drop taken.length)

/-- A listing behind its first word. -/
def listing (g : Grammar) : Parser Statement := do
  let extended ← key? "EXTENDED"
  let full ← key? "FULL"
  let near ← key? "SESSION"
  let wide ← key? "GLOBAL"
  let lead := "SHOW " ++ only extended "EXTENDED " ++ only full "FULL "
  if (← anyKey? ["COLUMNS", "FIELDS"]).isSome then return .other (← showColumns g lead)
  if ← key? "TABLES" then
    let database ← match ← anyKey? ["FROM", "IN"] with
      | some _ => do pure (" FROM " ++ (← name).written)
      | none => pure ""
    return .showTables (lead ++ "TABLES" ++ database ++ (← listingFilter g))
  if ← key? "FUNCTIONS" then return .other ("SHOW FUNCTIONS" ++ (← listingFilter g))
  if extended || full then failure
  if ← key? "CREATE" then
    let k ← anyKey ["TABLE", "TRIGGER", "FUNCTION", "PROCEDURE", "EVENT", "VIEW"]
    return .other ("SHOW CREATE " ++ k ++ " " ++ QualifiedName.written (← qualifiedName))
  if ← key? "COLLATION" then return .other ("SHOW COLLATION" ++ (← listingFilter g))
  match ← anyKey? ["VARIABLES", "STATUS"] with
  | some k =>
    return .other ("SHOW" ++ only wide " GLOBAL" ++ only near " SESSION" ++ " " ++ k
      ++ (← listingFilter g))
  | none => return .other ("SHOW" ++ (← variableWords))

/-! ### Rights -/

/-- A right that is given or taken, with the columns it is limited to. -/
def right : Parser String := do
  let k ← anyKey ["CONNECT", "CREATE", "DELETE", "EXECUTE", "INSERT", "REFERENCES", "SELECT",
    "TEMPORARY", "TRIGGER", "TRUNCATE", "UPDATE", "USAGE"]
  let columns ← if ["INSERT", "REFERENCES", "SELECT", "UPDATE"].contains k then nameList?
    else pure []
  return k ++ writtenColumns columns

/-- What the rights are for. -/
def rightObjects : Parser String := do
  if ← keys? ["ALL", "TABLES", "IN", "SCHEMA"] then
    return "ALL TABLES IN SCHEMA " ++ (← names)
  if ← keys? ["ALL", "SEQUENCES", "IN", "SCHEMA"] then
    return "ALL SEQUENCES IN SCHEMA " ++ (← names)
  match ← anyKey? ["SEQUENCE", "SCHEMA", "TABLE"] with
  | some "TABLE" | none => names
  | some k => return k ++ " " ++ (← names)
where
  names : Parser String := do
    return Text.join ", " ((← commaList qualifiedName).map QualifiedName.written)

/-- Rights and what they are for. -/
def rights : Parser String := do
  let list ← if ← key? "ALL" then
      if ← key? "PRIVILEGES" then pure "ALL PRIVILEGES" else pure "ALL"
    else do pure (Text.join ", " (← commaList right))
  key "ON"
  return list ++ " ON " ++ (← rightObjects)

/-- Who gave the rights. -/
def grantor : Parser String := do
  if ← keys? ["GRANTED", "BY"] then return " GRANTED BY " ++ (← name).written else return ""

/-- Rights that are given, behind the first word. -/
def grant : Parser String := do
  let list ← rights
  key "TO"
  let receivers ← commaList name
  let further ← keys? ["WITH", "GRANT", "OPTION"]
  return "GRANT " ++ list ++ " TO " ++ writtenNames receivers
    ++ only further " WITH GRANT OPTION" ++ (← grantor)

/-- Rights that are taken away, behind the first word. -/
def revoke : Parser String := do
  let list ← rights
  key "FROM"
  let holders ← commaList name
  let giver ← grantor
  let reach ← anyKey? ["CASCADE", "RESTRICT"]
  return "REVOKE " ++ list ++ " FROM " ++ writtenNames holders ++ giver ++ " "
    ++ reach.getD "RESTRICT"

/-! ### Prepared statements and calls -/

/-- Parameters between parentheses, if a parenthesis opens. -/
def parameters (g : Grammar) : Parser String := do
  if ← peekSymbol "(" then return "(" ++ writtenExprs (← inParens g.exprs) ++ ")" else return ""

/-- A statement that is run later under a name. -/
def prepare (g : Grammar) : Parser String := do
  let n ← name
  let types ← if ← peekSymbol "(" then inParens (commaList dataType) else pure []
  key "AS"
  let s ← g.statement
  return "PREPARE " ++ n.written ++ " "
    ++ only (!types.isEmpty) ("(" ++ Text.join ", " (types.map DataType.written) ++ ") ")
    ++ "AS " ++ s.written

/-- A procedure that is called. -/
def calledProcedure (g : Grammar) : Parser String := do
  let n ← qualifiedName
  if ← peekSymbol "(" then return "CALL " ++ (← call g n).written
  return "CALL " ++ QualifiedName.written n

/-- A setting of the storage engine. -/
def pragma : Parser String := do
  let n ← qualifiedName
  let lead := "PRAGMA " ++ QualifiedName.written n
  if ← peekSymbol "(" then return lead ++ "(" ++ (← inParens constant).written ++ ")"
  if ← symbol? "=" then return lead ++ " = " ++ (← constant).written
  return lead

/-- A statement without effect on data that begins with the word, behind it. -/
def housekeeping (g : Grammar) (k : String) : Parser String := do
  match k with
  | "USE" => return "USE " ++ (← name).written
  | "GRANT" => grant
  | "REVOKE" => revoke
  | "CALL" => calledProcedure g
  | "EXECUTE" =>
    let n ← name
    let list ← parameters g
    let values ← if ← key? "USING" then do pure (" USING " ++ writtenExprs (← g.exprs)) else pure ""
    return "EXECUTE " ++ n.written ++ list ++ values
  | "PREPARE" => prepare g
  | "DEALLOCATE" =>
    let word ← key? "PREPARE"
    return "DEALLOCATE " ++ only word "PREPARE " ++ (← name).written
  | "CLOSE" =>
    if ← key? "ALL" then return "CLOSE ALL"
    return "CLOSE " ++ (← name).written
  | "DISCARD" =>
    let what ← anyKey ["ALL", "PLANS", "SEQUENCES", "TEMP", "TEMPORARY"]
    return "DISCARD " ++ (if what == "TEMPORARY" then "TEMP" else what)
  | "ASSERT" =>
    let e ← g.expr
    let message ← g.exprAfter? "AS"
    return "ASSERT " ++ e.written ++ writtenAfter " AS " message
  | "PRAGMA" => pragma
  | "INSTALL" => return "INSTALL " ++ (← name).written
  | "LOAD" => return "LOAD " ++ (← name).written
  | "KILL" =>
    let what ← anyKey? ["CONNECTION", "QUERY", "MUTATION"]
    return "KILL" ++ spaced [what] ++ " " ++ toString (← wholeNumber)
  | "COPY" => copy g
  | "UNLOAD" => unload g
  | "DECLARE" => cursor g
  | "FETCH" => fetchRows
  | "ANALYZE" => analyze g
  | "MSCK" => repair
  | "OPTIMIZE" => optimize g
  | "CACHE" => cache g
  | "UNCACHE" => uncache
  | "ATTACH" => attach g
  | "DETACH" => detach
  | _ => failure

end Stencil.Sql.Grammar
