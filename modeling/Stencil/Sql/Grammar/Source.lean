/-
What rows are drawn from: tables, queries, functions, and joins of them.

Parentheses may enclose a query or a join.  Around a single factor they say
nothing and are dropped; a name behind them then belongs to the factor itself.
-/
import Stencil.Sql.Grammar.Reshape

namespace Stencil.Sql

/-- Gives a name to a factor that has none yet. -/
def Factor.rename (a : Alias) : Factor → Option Factor
  | .table name arguments none hints => some (.table name arguments (some a) hints)
  | .derived lateral query none => some (.derived lateral query (some a))
  | .nested inner none => some (.nested inner (some a))
  | .other pieces none tail => some (.other pieces (some a) tail)
  | _ => none

/-- The factor is itself a join between parentheses. -/
def Factor.isNested : Factor → Bool
  | .nested .. => true
  | _ => false

namespace Grammar

open Sql.Parser

/-! ### Names of relations -/

/-- A name for a relation, if one is given. -/
def relationAlias : Parser (Option Alias) := do
  match ← optionalAlias Keyword.reservedForTables with
  | some n => return some ⟨n, ← nameList?⟩
  | none => return none

/-! ### Single factors -/

/-- Rows between parentheses, with or without the word ROW. -/
def valueRows (g : Grammar) : Parser Body := do
  let rows ← commaList do
    let explicit ← key? "ROW"
    let row ← inParens g.exprs
    pure (explicit, row)
  return .values (rows.any (·.1)) (rows.map (·.2))

/-- A query of nothing but a body. -/
def Query.ofBody (body : Body) : Query where
  recursive := false
  ctes := []
  body := body
  order := []
  interpolation := []
  limit := none
  offset := none
  offsetUnit := ""
  limitTail := []
  fetch := none
  tail := []

/-- A query in place of a table, behind its opening parenthesis. -/
def derived (g : Grammar) (lateral : Bool) : Parser Factor := do
  let q ← g.query
  symbol ")"
  return .derived lateral q (← relationAlias)

/-- A factor that may refer to the factors before it. -/
def lateralFactor (g : Grammar) : Parser Factor := do
  if ← symbol? "(" then return ← derived g true
  let function ← qualifiedName
  let list ← inParens (commaListUntil ")" (argument g))
  return .other (.words ("LATERAL " ++ QualifiedName.written function)
    :: parenthesized (separated ", " list)) (← relationAlias) []

/-- The rows that an expression yields. -/
def tableOf (g : Grammar) : Parser Factor := do
  let e ← inParens g.expr
  return .other [.words "TABLE(", .expr e, .words ")"] (← relationAlias) []

/-- The elements of arrays as rows. -/
def unnested (g : Grammar) : Parser Factor := do
  let arrays ← inParens g.exprs
  let ordinal ← keys? ["WITH", "ORDINALITY"]
  let label ← relationAlias
  let tail ← if ← keys? ["WITH", "OFFSET"] then do
      match ← optionalAlias Keyword.reservedForColumns with
      | some n => pure [Piece.words (" WITH OFFSET AS " ++ n.written)]
      | none => pure [Piece.words " WITH OFFSET"]
    else pure []
  return .other (.words "UNNEST(" :: (listed arrays
    ++ [.words (if ordinal then ") WITH ORDINALITY" else ")")])) label tail

/-- The hints behind a table. -/
def hints (g : Grammar) : Parser (List Piece) := do
  let list ← attempt do
    key "WITH"
    symbol "("
  if list.isSome then
    let es ← g.exprs
    symbol ")"
    return .words " WITH (" :: (listed es ++ [.words ")"])
  return []

/-- Settings with commas in between, each a name and a constant. -/
def plainSettings : Parser String := do
  let list ← commaList do
    let n ← name
    symbol "="
    pure (n.written ++ " = " ++ (← constant).written)
  return Text.join ", " list

/-- The arguments of a table, which may end in settings, up to the closing parenthesis. -/
def tableArguments (g : Grammar) : Nat → Parser (List (List Piece))
  | 0 => failure
  | n + 1 => do
    if ← key? "SETTINGS" then
      let text ← plainSettings
      symbol ")"
      return [[.words ("SETTINGS " ++ text)]]
    let first ← argument g
    if ← symbol? "," then return first :: (← tableArguments g n)
    symbol ")"
    return [first]

/-- The arguments of a table between parentheses, if a parenthesis opens. -/
def tableArguments? (g : Grammar) : Parser (List Piece) := do
  if !(← symbol? "(") then return []
  let list ← if ← symbol? ")" then pure [] else do tableArguments g (← rounds)
  return parenthesized (separated ", " list)

/-- A factor with the pivots behind it, each with the name that follows it. -/
def pivoted (g : Grammar) (f : Factor) : Nat → Parser Factor
  | 0 => pure f
  | n + 1 => do
    match ← anyKey? ["PIVOT", "UNPIVOT"] with
    | none => return f
    | some k =>
      let rest ← if k == "PIVOT" then pivot g else unpivot
      pivoted g (.other (.words f.written :: rest) (← relationAlias) []) n

/-- A factor with the row pattern behind it, if there is one. -/
def matched (g : Grammar) (f : Factor) : Parser Factor := do
  if ← key? "MATCH_RECOGNIZE" then
    let rest ← matchRecognize g
    return .other (.words f.written :: rest) (← relationAlias) []
  return f

/-- A table, or a function called like one. -/
def tableFactor (g : Grammar) : Parser Factor := do
  let name ← qualifiedName
  let partitions ← if ← key? "PARTITION" then do
      pure [Piece.words ("PARTITION (" ++ writtenNames (← nameList) ++ ")")]
    else pure []
  let arguments ← tableArguments? g
  let ordinal ← keys? ["WITH", "ORDINALITY"]
  let label ← relationAlias
  let table := Factor.table name (partitions ++ arguments
    ++ (if ordinal then [.words " WITH ORDINALITY"] else [])) label (← hints g)
  matched g (← pivoted g table (← rounds))

/-! ### Joins -/

/-- The condition of a join. -/
def constraint (g : Grammar) (natural : Bool) : Parser Constraint := do
  if natural then return .natural
  if ← key? "ON" then return .on (← g.expr)
  if ← key? "USING" then return .using (← nameList)
  return .none

/-- The kind of a join that takes a condition. -/
def joinKind : Parser JoinKind := do
  match ← next with
  | .word _ none "JOIN" => return .inner
  | .word _ none "INNER" =>
    key "JOIN"
    return .inner
  | .word _ none "LEFT" => sided .left .leftSemi .leftAnti
  | .word _ none "RIGHT" => sided .right .rightSemi .rightAnti
  | .word _ none "FULL" =>
    let _ ← key? "OUTER"
    key "JOIN"
    return .full
  | _ => failure
where
  sided (outer semi anti : JoinKind) : Parser JoinKind := do
    match ← anyKey ["OUTER", "SEMI", "ANTI", "JOIN"] with
    | "JOIN" => return outer
    | k =>
      key "JOIN"
      return if k == "SEMI" then semi else if k == "ANTI" then anti else outer

/-- A join whose kind is known, with a factor of the given parser. -/
def joinOf (g : Grammar) (factor : Parser Factor) (global : Bool) : Parser (Option Join) := do
  if ← key? "CROSS" then
    let k ← anyKey ["JOIN", "APPLY"]
    return some ⟨global, if k == "JOIN" then .cross else .crossApply, ← factor, [], .none⟩
  if ← key? "OUTER" then
    key "APPLY"
    return some ⟨global, .outerApply, ← factor, [], .none⟩
  if ← key? "ASOF" then
    key "JOIN"
    let f ← factor
    key "MATCH_CONDITION"
    let e ← inParens g.expr
    return some ⟨global, .asOf, f, [.words " MATCH_CONDITION (", .expr e, .words ")"],
      ← constraint g false⟩
  let natural ← key? "NATURAL"
  if ← peekKeys ["JOIN", "INNER", "LEFT", "RIGHT", "FULL"] then
    let kind ← joinKind
    let f ← factor
    return some ⟨global, kind, f, [], ← constraint g natural⟩
  if natural then failure else return none

/-- The joins that follow a factor. -/
def joins (g : Grammar) (factor : Parser Factor) : Nat → Parser (List Join)
  | 0 => pure []
  | n + 1 => do
    let global ← key? "GLOBAL"
    match ← joinOf g factor global with
    | some j => return j :: (← joins g factor n)
    | none => return []

/-- A factor with what is joined to it. -/
def joined (g : Grammar) (factor : Parser Factor) : Parser From := do
  let f ← factor
  return ⟨f, ← joins g factor (← rounds)⟩

/-- A query, a join or a factor, behind an opening parenthesis. -/
def enclosed (g : Grammar) (factor : Parser Factor) : Parser Factor := do
  if let some f ← attempt (derived g false) then return f
  let inner ← joined g factor
  symbol ")"
  let label ← relationAlias
  if !inner.joins.isEmpty || inner.factor.isNested then return .nested inner label
  match label with
  | none => return inner.factor
  | some a =>
    match inner.factor.rename a with
    | some f => return f
    | none => failure

/-- A factor inside at most so many parentheses. -/
def factorAt (g : Grammar) : Nat → Parser Factor
  | 0 => failure
  | n + 1 => do
    if ← key? "LATERAL" then return ← lateralFactor g
    if ← key? "TABLE" then return ← tableOf g
    if ← symbol? "(" then return ← enclosed g (factorAt g n)
    let follower ← peekAt? 1
    if (← peekKeys ["VALUES"]) && follower.any (Token.isSymbol · "(") then
      key "VALUES"
      let rows ← valueRows g
      return .derived false (Query.ofBody rows) (← relationAlias)
    if ← key? "UNNEST" then return ← unnested g
    if (← peekKeys ["JSON_TABLE"]) && follower.any (Token.isSymbol · "(") then
      key "JSON_TABLE"
      let pieces ← documentTable g
      return .other pieces (← relationAlias) []
    tableFactor g

/-- A factor. -/
def factor (g : Grammar) : Parser Factor := do factorAt g (← rounds)

/-- A factor with its joins. -/
def source (g : Grammar) : Parser From := do joined g (factorAt g (← rounds))

end Grammar
end Stencil.Sql
