/-
Columns and constraints of tables that are created.

Only the names and types of columns are used later; options and constraints are
read for their written form.
-/
import Stencil.Sql.Grammar.Change

namespace Stencil.Sql.Grammar

open Sql.Parser

/-! ### Words shared by definitions -/

/-- The words IF NOT EXISTS, if they come next. -/
def ifNotExists : Parser Bool := keys? ["IF", "NOT", "EXISTS"]

/-- The words IF EXISTS, if they come next. -/
def ifExists : Parser Bool := keys? ["IF", "EXISTS"]

/-- A text that is only written if the condition holds. -/
def only (condition : Bool) (text : String) : String := if condition then text else ""

/-! ### Options shared by columns and constraints -/

/-- Words of a list that are there, each behind a blank. -/
def spaced (words : List (Option String)) : String :=
  String.join ((words.filterMap id).map (" " ++ ·))

/-- When a constraint is checked. -/
structure Checking where
  deferrable : Option String := none
  initially : Option String := none
  enforced : Option String := none

/-- The words that say when a constraint is checked, in any order. -/
def checkingFrom (c : Checking) : Nat → Parser Checking
  | 0 => pure c
  | n + 1 => do
    if c.deferrable.isNone then
      if ← keys? ["NOT", "DEFERRABLE"] then
        return ← checkingFrom { c with deferrable := some "NOT DEFERRABLE" } n
      if ← key? "DEFERRABLE" then
        return ← checkingFrom { c with deferrable := some "DEFERRABLE" } n
    if c.initially.isNone then
      if ← key? "INITIALLY" then
        let k ← anyKey ["DEFERRED", "IMMEDIATE"]
        return ← checkingFrom { c with initially := some ("INITIALLY " ++ k) } n
    if c.enforced.isNone then
      if ← key? "ENFORCED" then
        return ← checkingFrom { c with enforced := some "ENFORCED" } n
      if ← keys? ["NOT", "ENFORCED"] then
        return ← checkingFrom { c with enforced := some "NOT ENFORCED" } n
    return c

/-- When a constraint is checked, in words. -/
def checking : Parser String := do
  let c ← checkingFrom {} 4
  return spaced [c.deferrable, c.initially, c.enforced]

/-- What happens to rows when the rows they refer to change. -/
def referentialAction : Parser String := do
  if let some k ← anyKey? ["RESTRICT", "CASCADE"] then return k
  if ← keys? ["SET", "NULL"] then return "SET NULL"
  if ← keys? ["SET", "DEFAULT"] then return "SET DEFAULT"
  keys ["NO", "ACTION"]
  return "NO ACTION"

/-- The actions on deletion and on update, in any order. -/
def referentialActions (onDelete onUpdate : Option String) : Nat → Parser String
  | 0 => pure ""
  | n + 1 => do
    if onDelete.isNone && (← keys? ["ON", "DELETE"]) then
      return ← referentialActions (some ("ON DELETE " ++ (← referentialAction))) onUpdate n
    if onUpdate.isNone && (← keys? ["ON", "UPDATE"]) then
      return ← referentialActions onDelete (some ("ON UPDATE " ++ (← referentialAction))) n
    return spaced [onDelete, onUpdate]

/-- A setting: a name and its value. -/
def setting (g : Grammar) : Parser String := do
  let n ← name
  symbol "="
  return n.written ++ " = " ++ (← g.expr).written

/-- Settings between parentheses behind the words that introduce them, if these come next. -/
def settingsAfter (g : Grammar) (ks : List String) : Parser (List String) := do
  if ← keys? ks then inParens (commaList (setting g)) else return []

/-- Settings written out behind words, if there are any. -/
def writtenSettings (lead : String) (list : List String) : String :=
  only (!list.isEmpty) (lead ++ "(" ++ Text.join ", " list ++ ")")

/-! ### Sequences -/

/-- A number, or a place that is kept for one. -/
def plainNumber : Parser String := do
  match ← next with
  | .number text long => return Literal.written (.number text long)
  | .placeholder text => return text
  | _ => failure

/-- A number with an optional sign. -/
def signedNumber : Parser String := do
  if ← symbol? "-" then return "-" ++ (← plainNumber)
  if ← symbol? "+" then return "+" ++ (← plainNumber)
  plainNumber

/-- A number behind a word, or NO in front of the word, if either is there. -/
def limitOption (k : String) : Parser String := do
  if ← key? k then return " " ++ k ++ " " ++ (← signedNumber)
  if ← keys? ["NO", k] then return " NO " ++ k
  return ""

/-- A number behind a word with an optional second word, if the first is there. -/
def countOption (k second : String) : Parser String := do
  if !(← key? k) then return ""
  let long ← key? second
  return " " ++ k ++ only long (" " ++ second) ++ " " ++ (← signedNumber)

/-- How a sequence counts; the options stand in a fixed order. -/
def sequenceOptions : Parser String := do
  let step ← countOption "INCREMENT" "BY"
  let low ← limitOption "MINVALUE"
  let high ← limitOption "MAXVALUE"
  let start ← countOption "START" "WITH"
  let cache ← if ← key? "CACHE" then do pure (" CACHE " ++ (← signedNumber)) else pure ""
  let cycle ← if ← keys? ["NO", "CYCLE"] then pure " NO CYCLE"
    else if ← key? "CYCLE" then pure " CYCLE"
    else pure ""
  return step ++ low ++ high ++ start ++ cache ++ cycle

/-! ### Columns -/

/-- Whether a computed column is kept or computed anew. -/
def storage : Parser String := do
  match ← anyKey? ["STORED", "VIRTUAL"] with
  | some k => return " " ++ k
  | none => return ""

/-- How an identity column counts, between parentheses if it is given. -/
def identityOptions : Parser String := do
  if !(← peekSymbol "(") then return ""
  let options ← inParens sequenceOptions
  return only (!options.isEmpty) ("(" ++ options ++ " )")

/-- A column whose values the table makes. -/
def generated (g : Grammar) : Parser String := do
  if ← keys? ["BY", "DEFAULT", "AS", "IDENTITY"] then
    return "GENERATED BY DEFAULT AS IDENTITY" ++ (← identityOptions)
  keys ["ALWAYS", "AS"]
  if ← key? "IDENTITY" then return "GENERATED ALWAYS AS IDENTITY" ++ (← identityOptions)
  let e ← inParens g.expr
  return "GENERATED ALWAYS AS (" ++ e.written ++ ")" ++ (← storage)

/-- The first number of an identity column and the step. -/
def identity : Parser String := do
  if ← symbol? "(" then
    let seed ← wholeNumber
    symbol ","
    let step ← wholeNumber
    symbol ")"
    return "IDENTITY(" ++ toString seed ++ ", " ++ toString step ++ ")"
  return "IDENTITY"

/-- An expression that may be left out at the end of a column. -/
def ephemeral (g : Grammar) : Parser String := do
  if (← peekSymbol ",") || (← peekSymbol ")") then return "EPHEMERAL"
  return "EPHEMERAL " ++ (← g.expr).written

/-- The table and columns that a column refers to. -/
def reference : Parser String := do
  let table ← qualifiedName
  let columns ← nameList?
  let actions ← referentialActions none none 3
  return "REFERENCES " ++ QualifiedName.written table ++ writtenColumns columns ++ actions
    ++ (← checking)

/-- An option of a column, if one comes next. -/
def columnOption? (g : Grammar) : Parser (Option String) := do
  if ← keys? ["CHARACTER", "SET"] then
    return some ("CHARACTER SET " ++ QualifiedName.written (← qualifiedName))
  if ← keys? ["NOT", "NULL"] then return some "NOT NULL"
  if ← keys? ["PRIMARY", "KEY"] then return some ("PRIMARY KEY" ++ (← checking))
  if ← keys? ["ON", "UPDATE"] then return some ("ON UPDATE " ++ (← g.expr).written)
  let words := ["COMMENT", "NULL", "DEFAULT", "MATERIALIZED", "ALIAS", "EPHEMERAL", "UNIQUE",
    "REFERENCES", "CHECK", "AUTO_INCREMENT", "AUTOINCREMENT", "GENERATED", "OPTIONS", "AS",
    "IDENTITY"]
  match ← anyKey? words with
  | none => return none
  | some k =>
    some <$> match k with
      | "COMMENT" => do return "COMMENT " ++ (← quotedText)
      | "DEFAULT" | "MATERIALIZED" | "ALIAS" => do return k ++ " " ++ (← g.expr).written
      | "EPHEMERAL" => ephemeral g
      | "UNIQUE" => do return "UNIQUE" ++ (← checking)
      | "REFERENCES" => reference
      | "CHECK" => do return "CHECK (" ++ (← inParens g.expr).written ++ ")"
      | "GENERATED" => generated g
      | "OPTIONS" => do
        return "OPTIONS(" ++ Text.join ", " (← inParens (commaList (setting g))) ++ ")"
      | "AS" => do
        let e ← inParens g.expr
        return "AS (" ++ e.written ++ ")" ++ (← storage)
      | "IDENTITY" => identity
      | _ => pure k

/-- The options of a column, and the ordering of its texts if it is among them. -/
def columnOptions (g : Grammar) (collation : String) : Nat → Parser (String × String)
  | 0 => failure
  | n + 1 => do
    if ← key? "CONSTRAINT" then
      let c ← name
      match ← columnOption? g with
      | some text =>
        let (rest, collation) ← columnOptions g collation n
        return (" CONSTRAINT " ++ c.written ++ " " ++ text ++ rest, collation)
      | none => failure
    match ← columnOption? g with
    | some text =>
      let (rest, collation) ← columnOptions g collation n
      return (" " ++ text ++ rest, collation)
    | none =>
      if ← key? "COLLATE" then
        columnOptions g (" COLLATE " ++ QualifiedName.written (← qualifiedName)) n
      else return ("", collation)

/-- A column. -/
def column (g : Grammar) : Parser ColumnDefinition := do
  let n ← name
  let t ← dataType
  let (text, collation) ← columnOptions g "" (← rounds)
  return ⟨n, t.written, collation ++ text⟩

/-! ### Constraints of the whole table -/

/-- The kind of index that enforces a constraint. -/
def indexType : Parser String := do
  if ← key? "USING" then return " USING " ++ (← anyKey ["BTREE", "HASH"])
  return ""

/-- The options of an index. -/
def indexOptions : Nat → Parser String
  | 0 => pure ""
  | n + 1 => do
    if ← peekKeys ["USING"] then return (← indexType) ++ (← indexOptions n)
    if ← key? "COMMENT" then return " COMMENT " ++ (← quotedText) ++ (← indexOptions n)
    return ""

/-- The name of an index behind a blank, if it has one. -/
def indexName : Parser String := do
  match ← attempt name with
  | some n => return " " ++ n.written
  | none => return ""

/-- The words KEY or INDEX, if one is there. -/
def indexWord : Parser String := do
  match ← anyKey? ["KEY", "INDEX"] with
  | some k => return " " ++ k
  | none => return ""

/-- The columns of a constraint with the index that enforces it. -/
def indexed (lead : String) (named : Bool) : Parser String := do
  let n ← if named then indexName else pure ""
  let t ← indexType
  let columns ← nameList
  let options ← indexOptions (← rounds)
  return lead ++ n ++ t ++ " (" ++ writtenNames columns ++ ")" ++ options ++ (← checking)

/-- Columns that refer to columns of another table. -/
def foreignKey : Parser String := do
  key "KEY"
  let columns ← nameList
  key "REFERENCES"
  let table ← qualifiedName
  let others ← nameList
  let actions ← referentialActions none none 3
  return "FOREIGN KEY (" ++ writtenNames columns ++ ") REFERENCES " ++ QualifiedName.written table
    ++ "(" ++ writtenNames others ++ ")" ++ actions ++ (← checking)

/-- A constraint behind its name. -/
def namedConstraint (g : Grammar) : Parser String := do
  match ← anyKey ["UNIQUE", "PRIMARY", "FOREIGN", "CHECK"] with
  | "UNIQUE" => indexed ("UNIQUE" ++ (← indexWord)) true
  | "PRIMARY" =>
    key "KEY"
    indexed "PRIMARY KEY" true
  | "FOREIGN" => foreignKey
  | _ => return "CHECK (" ++ (← inParens g.expr).written ++ ")"

/-- A constraint of a table, if one comes next. -/
def tableConstraint? (g : Grammar) : Parser (Option String) := do
  if ← key? "CONSTRAINT" then
    let n ← name
    return some ("CONSTRAINT " ++ n.written ++ " " ++ (← namedConstraint g))
  if ← peekKeys ["UNIQUE", "PRIMARY", "FOREIGN", "CHECK"] then
    return some (← namedConstraint g)
  match ← anyKey? ["INDEX", "KEY", "FULLTEXT", "SPATIAL"] with
  | none => return none
  | some k =>
    let word ← if k == "INDEX" || k == "KEY" then pure "" else indexWord
    let n ← if ← peekKeys ["USING"] then pure "" else indexName
    let t ← indexType
    return some (k ++ word ++ n ++ t ++ " (" ++ writtenNames (← nameList) ++ ")")

/-- Columns and constraints up to the closing parenthesis; at least one comes next. -/
def tableItems (g : Grammar) : Nat → Parser (List ColumnDefinition × List String)
  | 0 => failure
  | n + 1 => do
    let (columns, constraints) ← match ← tableConstraint? g with
      | some c => pure ([], [c])
      | none => do pure ([← column g], [])
    if ← symbol? ")" then return (columns, constraints)
    symbol ","
    let (moreColumns, moreConstraints) ← tableItems g n
    return (columns ++ moreColumns, constraints ++ moreConstraints)

/-- Columns and constraints between parentheses, if a parenthesis opens. -/
def tableShape (g : Grammar) : Parser (List ColumnDefinition × List String) := do
  if !(← symbol? "(") then return ([], [])
  if ← symbol? ")" then return ([], [])
  tableItems g (← rounds)

end Stencil.Sql.Grammar
