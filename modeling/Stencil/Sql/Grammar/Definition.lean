/-
Statements that create, empty or drop objects.

Tables and views are kept in parts because they enter the catalog; all other
definitions are read for their written form.
-/
import Stencil.Sql.Grammar.Routine

namespace Stencil.Sql.Grammar

open Sql.Parser

/-! ### Tables -/

/-- The columns a table is partitioned by. -/
def partitionColumns (g : Grammar) : Parser String := do
  if !(← keys? ["PARTITIONED", "BY"]) then return ""
  let columns ← inParens (commaList (column g))
  return " PARTITIONED BY (" ++ Text.join ", " (columns.map ColumnDefinition.written) ++ ")"

/-- How and where the rows of a table are stored. -/
structure Storage where
  rowFormat : String := ""
  fileFormat : String := ""
  properties : String := ""
  location : String := ""

/-- How and where the rows of a table are stored, in any order. -/
def storageFrom (g : Grammar) (s : Storage) : Nat → Parser Storage
  | 0 => pure s
  | n + 1 => do
    if ← key? "ROW" then
      key "FORMAT"
      let text ← if ← key? "SERDE" then do pure (" ROW FORMAT SERDE '" ++ (← freeText) ++ "'")
        else do
          key "DELIMITED"
          pure " ROW FORMAT DELIMITED"
      return ← storageFrom g { s with rowFormat := text } n
    if ← key? "STORED" then
      key "AS"
      if ← key? "INPUTFORMAT" then
        let input ← g.expr
        key "OUTPUTFORMAT"
        let output ← g.expr
        return ← storageFrom g { s with
          fileFormat := " STORED AS INPUTFORMAT " ++ input.written ++ " OUTPUTFORMAT "
            ++ output.written } n
      let k ← anyKey ["AVRO", "JSONFILE", "ORC", "PARQUET", "RCFILE", "SEQUENCEFILE", "TEXTFILE"]
      return ← storageFrom g { s with fileFormat := " STORED AS " ++ k } n
    if ← key? "LOCATION" then
      return ← storageFrom g { s with location := " LOCATION '" ++ (← freeText) ++ "'" } n
    match ← settingsAfter g ["WITH", "SERDEPROPERTIES"] with
    | [] => return s
    | list =>
      storageFrom g { s with
        properties := " WITH SERDEPROPERTIES (" ++ Text.join ", " list ++ ")" } n

/-- The engine that keeps a table. -/
def engine : Parser String := do
  if !(← key? "ENGINE") then return ""
  symbol "="
  let n ← wordName
  let parameters ← nameList?
  return " ENGINE=" ++ n.text
    ++ only (!parameters.isEmpty) ("(" ++ writtenNames parameters ++ ")")

/-- The number at which a table begins to count its rows. -/
def autoIncrement : Parser String := do
  if !(← key? "AUTO_INCREMENT") then return ""
  let _ ← symbol? "="
  return " AUTO_INCREMENT " ++ toString (← wholeNumber)

/-- The order in which a table keeps its rows. -/
def tableOrder (g : Grammar) : Parser String := do
  if !(← keys? ["ORDER", "BY"]) then return ""
  if ← peekSymbol "(" then
    let es ← inParens (commaListUntil ")" g.expr)
    return " ORDER BY (" ++ writtenExprs es ++ ")"
  return " ORDER BY " ++ (← g.expr).written

/-- How the rows of a table are spread and clustered, and further options. -/
def tableLayout (g : Grammar) : Parser String := do
  let partition ← if ← keys? ["PARTITION", "BY"] then do
      pure (" PARTITION BY " ++ (← g.expr).written)
    else pure ""
  let cluster ← if ← keys? ["CLUSTER", "BY"] then do
      pure (" CLUSTER BY " ++ writtenNames (← commaList name))
    else pure ""
  let options ← settingsAfter g ["OPTIONS"]
  return partition ++ cluster ++ writtenSettings " OPTIONS" options

/-- A word behind an equals sign, if the keywords that introduce it come next. -/
def wordAfter (ks : List String) (lead : String) : Parser String := do
  if !(← keys? ks) then return ""
  symbol "="
  return lead ++ (← wordName).text

/-- What happens to the rows of a temporary table at the end of a transaction. -/
def onCommit : Parser String := do
  if !(← keys? ["ON", "COMMIT"]) then return ""
  if ← keys? ["DELETE", "ROWS"] then return " ON COMMIT DELETE ROWS"
  if ← keys? ["PRESERVE", "ROWS"] then return " ON COMMIT PRESERVE ROWS"
  key "DROP"
  return " ON COMMIT DROP"

/-- A remark, with or without an equals sign. -/
def comment : Parser String := do
  if !(← key? "COMMENT") then return ""
  let equals ← symbol? "="
  return (if equals then " COMMENT = '" else " COMMENT '") ++ (← plainString) ++ "'"

/-- A name behind a keyword, written out with it. -/
def nameAfter (k : String) : Parser String := do
  if ← key? k then return " " ++ k ++ " " ++ QualifiedName.written (← qualifiedName)
  return ""

/-- The table whose shape is taken over. -/
def pattern : Parser String := do
  let like ← match ← anyKey? ["LIKE", "ILIKE"] with
    | some _ => do pure (" LIKE " ++ QualifiedName.written (← qualifiedName))
    | none => pure ""
  return like ++ (← nameAfter "CLONE")

/-- A new table behind the words that say its kind. -/
def createTable (g : Grammar) (lead : String) : Parser CreateTable := do
  let optional ← ifNotExists
  let n ← qualifiedName
  let placement ← if ← keys? ["ON", "CLUSTER"] then do
      pure (" ON CLUSTER " ++ (← name).written)
    else pure ""
  let like ← pattern
  let (columns, constraints) ← tableShape g
  let rowless ← keys? ["WITHOUT", "ROWID"]
  let partition ← partitionColumns g
  let store ← storageFrom g {} (← rounds)
  let options ← settingsAfter g ["WITH"]
  let properties ← settingsAfter g ["TBLPROPERTIES"]
  let kept ← engine
  let count ← autoIncrement
  let primary ← if ← keys? ["PRIMARY", "KEY"] then do
      pure (" PRIMARY KEY " ++ (← g.expr).written)
    else pure ""
  let order ← tableOrder g
  let layout ← tableLayout g
  let charset ← wordAfter ["DEFAULT", "CHARSET"] " DEFAULT CHARSET="
  let collation ← wordAfter ["COLLATE"] " COLLATE="
  let commit ← onCommit
  let strict ← key? "STRICT"
  let remark ← comment
  let query ← if ← key? "AS" then do pure (some (← g.query)) else pure none
  return {
    lead, ifNotExists := optional, name := n, placement, columns, constraints
    pattern := only rowless " WITHOUT ROWID" ++ like
    storage := partition ++ store.rowFormat ++ store.fileFormat ++ store.properties
      ++ store.location ++ writtenSettings " TBLPROPERTIES " properties
    options
    tail := kept ++ remark ++ count ++ primary ++ order ++ layout ++ charset ++ collation
      ++ commit ++ only strict " STRICT"
    query }

/-- A new table whose rows are kept elsewhere, behind its first words. -/
def createExternalTable (g : Grammar) (lead : String) : Parser CreateTable := do
  key "TABLE"
  let optional ← ifNotExists
  let n ← qualifiedName
  let (columns, constraints) ← tableShape g
  let partition ← partitionColumns g
  let store ← storageFrom g {} (← rounds)
  let properties ← settingsAfter g ["TBLPROPERTIES"]
  return {
    lead, ifNotExists := optional, name := n, placement := "", columns, constraints
    pattern := ""
    storage := partition ++ store.rowFormat ++ store.properties ++ store.fileFormat
      ++ store.location ++ writtenSettings " TBLPROPERTIES " properties
    options := []
    tail := ""
    query := none }

/-! ### Views -/

/-- A new view behind the words that say its kind. -/
def createView (g : Grammar) (orReplace materialized temporary : Bool) : Parser CreateView := do
  let optional ← ifNotExists
  let n ← qualifiedName
  let columns ← if ← symbol? "(" then do
      let list ← commaListUntil ")" name
      symbol ")"
      pure list
    else pure []
  let settings ← settingsAfter g ["WITH"]
  let cluster ← if ← keys? ["CLUSTER", "BY"] then nameList? else pure []
  let options ← settingsAfter g ["OPTIONS"]
  let target ← nameAfter "TO"
  let remark ← if ← key? "COMMENT" then do
      symbol "="
      pure (" COMMENT = " ++ (← quotedText))
    else pure ""
  key "AS"
  let query ← g.query
  let unbound ← keys? ["WITH", "NO", "SCHEMA", "BINDING"]
  return {
    orReplace, materialized, temporary, ifNotExists := optional, name := n
    target := target ++ remark
      ++ only options.isEmpty (writtenSettings " WITH " settings)
    columns
    options := only (!cluster.isEmpty) (" CLUSTER BY (" ++ writtenNames cluster ++ ")")
      ++ writtenSettings " OPTIONS" options
    query
    tail := only unbound " WITH NO SCHEMA BINDING" }

/-! ### Other objects -/

/-- Whether missing values count as different in an index. -/
def nullDistinction : Parser String := do
  if !(← key? "NULLS") then return ""
  let no ← key? "NOT"
  key "DISTINCT"
  return if no then " NULLS NOT DISTINCT" else " NULLS DISTINCT"

/-- A new index behind its first words; only commas stand between its columns. -/
def createIndex (g : Grammar) (lead : String) : Parser String := do
  let concurrently ← key? "CONCURRENTLY"
  let optional ← ifNotExists
  let named ← if optional then pure true else do pure !(← peekKeys ["ON"])
  let n ← if named then do pure (QualifiedName.written (← qualifiedName) ++ " ") else pure ""
  key "ON"
  let table ← qualifiedName
  let kind ← if ← key? "USING" then do pure (" USING " ++ (← name).written ++ " ") else pure ""
  let columns ← inParens (commaList (orderKey g))
  let included ← if ← key? "INCLUDE" then do
      pure (" INCLUDE (" ++ writtenNames (← nameList) ++ ")")
    else pure ""
  let nulls ← nullDistinction
  let parameters ← if ← key? "WITH" then inParens g.exprs else pure []
  let condition ← g.exprAfter? "WHERE"
  return lead ++ only concurrently "CONCURRENTLY " ++ only optional "IF NOT EXISTS " ++ n
    ++ "ON " ++ QualifiedName.written table ++ kind ++ "("
    ++ Text.join "," (columns.map OrderKey.written) ++ ")" ++ included ++ nulls
    ++ only (!parameters.isEmpty) (" WITH (" ++ writtenExprs parameters ++ ")")
    ++ writtenAfter " WHERE " condition

/-- A new schema behind its first words. -/
def createSchema : Parser String := do
  let optional ← ifNotExists
  let lead := "CREATE SCHEMA " ++ only optional "IF NOT EXISTS "
  if ← key? "AUTHORIZATION" then return lead ++ "AUTHORIZATION " ++ (← name).written
  let n ← qualifiedName
  let owner ← if ← key? "AUTHORIZATION" then do pure (" AUTHORIZATION " ++ (← name).written)
    else pure ""
  return lead ++ QualifiedName.written n ++ owner

/-- Where a database and what it manages are kept, in any order. -/
def databasePlaces (place managed : String) : Nat → Parser String
  | 0 => pure (place ++ managed)
  | n + 1 => do
    match ← anyKey? ["LOCATION", "MANAGEDLOCATION"] with
    | none => return place ++ managed
    | some k =>
      let text := " " ++ k ++ " '" ++ (← freeText) ++ "'"
      if k == "LOCATION" then databasePlaces text managed n else databasePlaces place text n

/-- A new database behind its first words. -/
def createDatabase : Parser String := do
  let optional ← ifNotExists
  let n ← qualifiedName
  let places ← databasePlaces "" "" (← rounds)
  return "CREATE DATABASE" ++ only optional " IF NOT EXISTS" ++ " " ++ QualifiedName.written n
    ++ places

/-- New roles behind their first words. -/
def createRole : Parser String := do
  let optional ← ifNotExists
  let names ← commaList qualifiedName
  let _ ← key? "WITH"
  return "CREATE ROLE " ++ only optional "IF NOT EXISTS "
    ++ Text.join ", " (names.map QualifiedName.written)

/-- A new sequence behind its first words. -/
def createSequence (temporary : Bool) : Parser String := do
  let optional ← ifNotExists
  let n ← qualifiedName
  let type ← if ← key? "AS" then do pure (" AS " ++ (← dataType).written) else pure ""
  let options ← sequenceOptions
  let column ← if ← keys? ["OWNED", "BY"] then
      if ← key? "NONE" then pure " OWNED BY NONE"
      else do pure (" OWNED BY " ++ QualifiedName.written (← qualifiedName))
    else pure ""
  return "CREATE " ++ only temporary "TEMPORARY " ++ "SEQUENCE "
    ++ only optional "IF NOT EXISTS " ++ QualifiedName.written n ++ type ++ options ++ column

/-- Attributes up to the closing parenthesis; the last comma may have nothing behind it. -/
def attributes : Nat → Parser (List String)
  | 0 => failure
  | n + 1 => do
    let a ← name
    let t ← dataType
    let collation ← nameAfter "COLLATE"
    let text := a.written ++ " " ++ t.written ++ collation
    let more ← symbol? ","
    if ← symbol? ")" then return [text]
    if !more then failure
    return text :: (← attributes n)

/-- A new type of records behind its first words. -/
def createType : Parser String := do
  let n ← qualifiedName
  key "AS"
  let list ← if ← symbol? "(" then
      if ← symbol? ")" then pure [] else do attributes (← rounds)
    else pure []
  return "CREATE TYPE " ++ QualifiedName.written n ++ " AS (" ++ Text.join ", " list ++ ")"

/-- A new extension behind its first words. -/
def createExtension : Parser String := do
  let optional ← ifNotExists
  let n ← name
  let details ← if ← key? "WITH" then do
      let schema ← if ← key? "SCHEMA" then do pure (" SCHEMA " ++ (← name).written) else pure ""
      let version ← if ← key? "VERSION" then do pure (" VERSION " ++ (← name).written) else pure ""
      let cascade ← key? "CASCADE"
      pure (schema ++ version ++ only cascade " CASCADE")
    else pure ""
  return "CREATE EXTENSION " ++ only optional "IF NOT EXISTS " ++ n.written
    ++ only (!details.isEmpty) (" WITH" ++ details)

/-- A new table that a module provides, behind its first word. -/
def createVirtualTable : Parser String := do
  key "TABLE"
  let optional ← ifNotExists
  let n ← qualifiedName
  key "USING"
  let provider ← name
  let arguments ← nameList?
  return "CREATE VIRTUAL TABLE " ++ only optional "IF NOT EXISTS " ++ QualifiedName.written n
    ++ " USING " ++ provider.written ++ writtenColumns arguments

/-- An object that cannot replace another, behind the words CREATE and its modifiers. -/
def createOther (g : Grammar) (temporary orAlter : Bool) : Parser String := do
  if ← keys? ["UNIQUE", "INDEX"] then return ← createIndex g "CREATE UNIQUE INDEX "
  match ← anyKey ["INDEX", "SCHEMA", "DATABASE", "ROLE", "SEQUENCE", "TYPE", "EXTENSION",
    "VIRTUAL", "PROCEDURE"] with
  | "INDEX" => createIndex g "CREATE INDEX "
  | "SCHEMA" => createSchema
  | "DATABASE" => createDatabase
  | "ROLE" => createRole
  | "SEQUENCE" => createSequence temporary
  | "TYPE" => createType
  | "EXTENSION" => createExtension
  | "VIRTUAL" => createVirtualTable
  | _ => createProcedure g ("CREATE " ++ only orAlter "OR ALTER ")

/-- What is created, behind the first word. -/
def create (g : Grammar) : Parser Statement := do
  let orReplace ← keys? ["OR", "REPLACE"]
  let orAlter ← keys? ["OR", "ALTER"]
  let near ← key? "LOCAL"
  let wide ← key? "GLOBAL"
  let transient ← key? "TRANSIENT"
  let temporary := (← anyKey? ["TEMP", "TEMPORARY"]).isSome
  let lead := "CREATE " ++ only orReplace "OR REPLACE "
  if ← key? "TABLE" then
    return .createTable (← createTable g (lead
      ++ (if wide then "GLOBAL " else if near then "LOCAL " else "")
      ++ only temporary "TEMPORARY " ++ only transient "TRANSIENT " ++ "TABLE"))
  if ← keys? ["MATERIALIZED", "VIEW"] then
    return .createView (← createView g orReplace true temporary)
  if ← key? "VIEW" then return .createView (← createView g orReplace false temporary)
  if ← key? "EXTERNAL" then
    return .createTable (← createExternalTable g (lead ++ "EXTERNAL TABLE"))
  let passing := lead ++ only temporary "TEMPORARY "
  if ← key? "FUNCTION" then return .other (← createFunction g passing)
  if ← key? "TRIGGER" then return .other (← createTrigger g lead)
  if ← keys? ["CONSTRAINT", "TRIGGER"] then
    return .other (← createTrigger g (lead ++ "CONSTRAINT "))
  if ← key? "MACRO" then return .other (← createMacro g passing)
  if orReplace then failure
  return .other (← createOther g temporary orAlter)

/-! ### Dropping -/

/-- The kinds of objects that are dropped by name. -/
def dropKinds : List (String × DropKind) :=
  [("TABLE", .table), ("VIEW", .view), ("INDEX", .other "INDEX"), ("ROLE", .other "ROLE"),
   ("SCHEMA", .other "SCHEMA"), ("SEQUENCE", .other "SEQUENCE"), ("STAGE", .other "STAGE"),
   ("TYPE", .other "TYPE")]

/-- Functions or procedures to be dropped. -/
def dropRoutines (g : Grammar) (k : String) : Parser String := do
  let optional ← ifExists
  let list ← commaList (routineSignature g)
  let tail ← anyKey? ["CASCADE", "RESTRICT"]
  return "DROP " ++ k ++ only optional " IF EXISTS" ++ " " ++ Text.join ", " list ++ spaced [tail]

/-- A trigger to be dropped. -/
def dropTrigger : Parser String := do
  let optional ← ifExists
  let n ← qualifiedName
  key "ON"
  let table ← qualifiedName
  let tail ← anyKey? ["CASCADE", "RESTRICT"]
  return "DROP TRIGGER" ++ only optional " IF EXISTS" ++ " " ++ QualifiedName.written n ++ " ON "
    ++ QualifiedName.written table ++ spaced [tail]

/-- What is dropped, behind the first word. -/
def drop (g : Grammar) : Parser Statement := do
  let temporary ← key? "TEMPORARY"
  match ← anyKey (dropKinds.map (·.1) ++ ["FUNCTION", "PROCEDURE", "TRIGGER"]) with
  | "FUNCTION" => return .other (← dropRoutines g "FUNCTION")
  | "PROCEDURE" => return .other (← dropRoutines g "PROCEDURE")
  | "TRIGGER" => return .other (← dropTrigger)
  | k =>
    match dropKinds.lookup k with
    | none => failure
    | some kind =>
      let optional ← ifExists
      let names ← commaList qualifiedName
      let cascade ← key? "CASCADE"
      let restrict ← key? "RESTRICT"
      let purge ← key? "PURGE"
      if cascade && restrict then failure
      if k == "ROLE" && (cascade || restrict || purge) then failure
      return .drop {
        temporary, kind, ifExists := optional, names
        tail := only cascade " CASCADE" ++ only restrict " RESTRICT" ++ only purge " PURGE" }

/-! ### Emptying -/

/-- Tables to be emptied, behind the first word. -/
def truncate (g : Grammar) : Parser String := do
  let word ← key? "TABLE"
  let single ← key? "ONLY"
  let names ← commaList qualifiedName
  let partitions ← if ← key? "PARTITION" then do
      pure (" PARTITION (" ++ writtenExprs (← inParens g.exprs) ++ ")")
    else pure ""
  let count ← anyKey? ["RESTART", "CONTINUE"]
  if count.isSome then key "IDENTITY"
  let reach ← anyKey? ["CASCADE", "RESTRICT"]
  return "TRUNCATE " ++ only word "TABLE " ++ only single "ONLY "
    ++ Text.join ", " (names.map QualifiedName.written)
    ++ spaced [count.map (· ++ " IDENTITY"), reach] ++ partitions

end Stencil.Sql.Grammar
