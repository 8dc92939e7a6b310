/-
Operators between and behind operands.

Each operator binds with a certain strength.  An expression takes operators for
as long as they bind more tightly than what surrounds it, so that of two
operators of one strength the left one binds first.
-/
import Stencil.Sql.Grammar.Level
import Stencil.Sql.Grammar.DataType

namespace Stencil.Sql

/-- How tightly operators bind. -/
structure Strength where
  disjunction : Nat := 5
  conjunction : Nat := 10
  negation : Nat := 15
  json : Nat := 16
  is : Nat := 17
  like : Nat := 19
  comparison : Nat := 20
  bitOr : Nat := 21
  shift : Nat := 22
  bitAnd : Nat := 23
  exclusiveOr : Nat := 24
  sum : Nat := 30
  product : Nat := 40
  timeZone : Nat := 41
  cast : Nat := 50

/-- The strengths in force. -/
def strength : Strength := {}

/-- The symbols that stand between two operands, with their strengths. -/
def infixSymbols : List (String × Nat) :=
  [("=", strength.comparison), ("==", strength.comparison), ("<>", strength.comparison),
   ("<", strength.comparison), ("<=", strength.comparison), (">", strength.comparison),
   (">=", strength.comparison), ("<=>", strength.comparison), ("~", strength.comparison),
   ("~*", strength.comparison), ("!~", strength.comparison), ("!~*", strength.comparison),
   ("~~", strength.comparison), ("~~*", strength.comparison), ("!~~", strength.comparison),
   ("!~~*", strength.comparison), ("|", strength.bitOr), ("^", strength.shift),
   ("<<", strength.shift), (">>", strength.shift), ("&", strength.bitAnd), ("+", strength.sum),
   ("-", strength.sum), ("*", strength.product), ("/", strength.product), ("%", strength.product),
   ("||", strength.product), ("//", strength.product), ("->", strength.json),
   ("->>", strength.json), ("#>", strength.json), ("#>>", strength.json), ("@>", strength.json),
   ("<@", strength.json), ("#-", strength.json), ("@?", strength.json), ("@@", strength.json),
   ("&&", strength.json), ("^@", strength.json)]

/-- The words that stand between two operands, with their strengths. -/
def infixWords : List (String × Nat) :=
  [("AND", strength.conjunction), ("OR", strength.disjunction), ("XOR", strength.exclusiveOr),
   ("DIV", strength.product), ("OPERATOR", strength.comparison)]

/-- The words that begin a test of the operand before them, with their strengths. -/
def testWords : List (String × Nat) :=
  [("BETWEEN", strength.comparison), ("IN", strength.comparison), ("LIKE", strength.like),
   ("ILIKE", strength.like), ("RLIKE", strength.like), ("REGEXP", strength.like),
   ("SIMILAR", strength.like)]

/-- The symbols that stand behind an operand, with their strengths. -/
def postfixSymbols : List (String × Nat) :=
  [("::", strength.cast), ("!", strength.cast), ("[", strength.json), ("#", strength.shift)]

/-- The symbols that compare, and may compare with any or all of several values. -/
def comparisonSymbols : List String := ["=", "==", "<>", "<", "<=", ">", ">="]

namespace Grammar

open Sql.Parser

/-- The strength of the operator that comes next; nothing else binds. -/
def nextStrength : Parser Nat := fun ts => some (of ts, ts)
where
  of : List Token → Nat
    | [] => 0
    | t :: rest =>
      match t with
      | .symbol s => ((infixSymbols ++ postfixSymbols).lookup s).getD 0
      | .word _ none "IS" => strength.is
      | .word _ none "NOT" =>
        match rest.head?.bind Token.key? with
        | some k => (testWords.lookup k).getD 0
        | none => 0
      | .word _ none "AT" =>
        if rest.head?.bind Token.key? == some "TIME"
            && (rest.drop 1).head?.bind Token.key? == some "ZONE" then strength.timeZone
        else 0
      | .word _ none k => ((infixWords ++ testWords).lookup k).getD 0
      | _ => 0

/-! ### Tests of one operand -/

/-- An expression of a phrase that begins with an operand. -/
def tested (left : Expr) (negated : Bool) (words : String) (rest : List Piece) : Expr :=
  .phrase (.expr left :: .words ((if negated then " NOT " else " ") ++ words) :: rest)

/-- What follows IS. -/
def isTest (g : Grammar) (left : Expr) : Parser Expr := do
  if ← key? "NULL" then return .isNull left
  if ← keys? ["NOT", "NULL"] then return .isNotNull left
  let negated ← key? "NOT"
  let lead := if negated then " IS NOT " else " IS "
  match ← anyKey? ["TRUE", "FALSE", "UNKNOWN"] with
  | some k => return .phrase [.expr left, .words (lead ++ k)]
  | none =>
    keys ["DISTINCT", "FROM"]
    let right ← g.expr
    return .phrase [.expr left, .words (lead ++ "DISTINCT FROM "), .expr right]

/-- The members that an operand is looked for in. -/
def inTest (g : Grammar) (left : Expr) (negated : Bool) : Parser Expr := do
  if ← key? "UNNEST" then
    let e ← inParens g.expr
    return tested left negated "IN UNNEST(" [.expr e, .words ")"]
  symbol "("
  if ← queryAhead then
    let q ← g.query
    symbol ")"
    return tested left negated "IN (" [.query q, .words ")"]
  let members ← g.exprs
  symbol ")"
  return tested left negated "IN (" (listed members ++ [.words ")"])

/-- The bounds that an operand is compared with. -/
def betweenTest (g : Grammar) (left : Expr) (negated : Bool) : Parser Expr := do
  let low ← g.operand strength.comparison
  key "AND"
  let high ← g.operand strength.comparison
  return tested left negated "BETWEEN " [.expr low, .words " AND ", .expr high]

/-- The escape character of a pattern, if one is given. -/
def escapeCharacter : Parser (List Piece) := do
  if ← key? "ESCAPE" then return [.words (" ESCAPE '" ++ (← freeText) ++ "'")]
  return []

/-- The pattern that an operand is matched with. -/
def patternTest (g : Grammar) (left : Expr) (negated : Bool) (words : String) : Parser Expr := do
  let pattern ← g.operand strength.like
  let escape ← if words == "REGEXP " || words == "RLIKE " then pure [] else escapeCharacter
  return tested left negated words (.expr pattern :: escape)

/-- What follows NOT, or a word that begins a test. -/
def membershipTest (g : Grammar) (left : Expr) : Parser Expr := do
  let negated ← key? "NOT"
  match ← anyKey ["REGEXP", "RLIKE", "IN", "BETWEEN", "LIKE", "ILIKE", "SIMILAR"] with
  | "IN" => inTest g left negated
  | "BETWEEN" => betweenTest g left negated
  | "SIMILAR" =>
    key "TO"
    patternTest g left negated "SIMILAR TO "
  | k => patternTest g left negated (k ++ " ")

/-! ### Subscripts -/

/-- The bounds of a slice behind its first colon. -/
def sliceRest (g : Grammar) : Parser (List Piece) := do
  if ← symbol? "]" then return []
  let upper ← g.expr
  if ← symbol? "]" then return [.expr upper]
  symbol ":"
  if ← symbol? "]" then return [.expr upper]
  let stride ← g.expr
  symbol "]"
  return [.expr upper, .words ":", .expr stride]

/-- An index or a slice, behind the opening bracket. -/
def subscript (g : Grammar) (left : Expr) : Parser Expr := do
  if ← symbol? ":" then
    let rest ← sliceRest g
    return .phrase (.expr left :: .words "[:" :: (rest ++ [.words "]"]))
  let lower ← g.expr
  if ← symbol? "]" then return .phrase [.expr left, .words "[", .expr lower, .words "]"]
  symbol ":"
  let rest ← sliceRest g
  return .phrase (.expr left :: .words "[" :: .expr lower :: .words ":" :: (rest ++ [.words "]"]))

/-! ### Operators between two operands -/

/-- A comparison with any or all of several values. -/
def quantified (g : Grammar) (left : Expr) (op quantifier : String) (binding : Nat) :
    Parser Expr := do
  symbol "("
  let lead := .words (" " ++ op ++ " " ++ quantifier ++ "(")
  let right ← if ← queryAhead then do pure (Piece.query (← g.query))
    else do pure (Piece.expr (← g.operand binding))
  symbol ")"
  return .phrase [.expr left, lead, right, .words ")"]

/-- The right side of an operator between two operands. -/
def infixRest (g : Grammar) (left : Expr) (op : String) (binding : Nat) : Parser Expr := do
  match ← anyKey? ["ANY", "ALL"] with
  | some quantifier =>
    if comparisonSymbols.contains op then
      quantified g left (if op == "==" then "=" else op) quantifier binding
    else failure
  | none => return .infixed left (if op == "==" then "=" else op) (← g.operand binding)

/-- A part of the name of a user's operator. -/
def operatorPart : Parser String := do
  match ← next with
  | .symbol s => pure s
  | .word text quote _ => pure (Name.written ⟨text, quote⟩)
  | .number text _ => pure text
  | _ => failure

/-- The name of a user's operator. -/
def operatorName : Parser String := do
  let parts ← inParens do
    let first ← operatorPart
    let rest ← manyWhile (symbol? ".") operatorPart (← rounds)
    pure (first :: rest)
  return "OPERATOR(" ++ Text.join "." parts ++ ")"

/-- The operator that comes next, and what it applies to besides the operand before it. -/
def continued (g : Grammar) (left : Expr) (binding : Nat) : Parser Expr := do
  match ← peek? with
  | some (.symbol s) =>
    let _ ← next
    if infixSymbols.any (·.1 == s) then infixRest g left s binding
    else if s == "::" then return .cast .colons left (← dataType).written
    else if s == "!" then return .unary .factorial left
    else if s == "[" then subscript g left
    else failure
  | some (.word _ none "NOT") => membershipTest g left
  | some (.word _ none k) =>
    if testWords.any (·.1 == k) then membershipTest g left
    else
      let _ ← next
      match k with
      | "IS" => isTest g left
      | "AT" =>
        keys ["TIME", "ZONE"]
        let zone ← g.operand binding
        return .phrase [.expr left, .words " AT TIME ZONE ", .expr zone]
      | "OPERATOR" => infixRest g left (← operatorName) binding
      | _ => if infixWords.any (·.1 == k) then infixRest g left k binding else failure
  | _ => failure

/-- The operand with all operators that bind more tightly than `floor` and are not `loose`. -/
def operatorsFrom (g : Grammar) (loose : List String) (floor : Nat) : Nat → Expr → Parser Expr
  | 0, left => pure left
  | n + 1, left => do
    let binding ← nextStrength
    if binding ≤ floor || (← peekKeys loose) then return left
    else operatorsFrom g loose floor n (← continued g left binding)

/-- The operand with all operators that bind more tightly than `floor`. -/
def operators (g : Grammar) (floor : Nat) (left : Expr) : Parser Expr := do
  operatorsFrom g [] floor (← rounds) left

end Grammar
end Stencil.Sql
