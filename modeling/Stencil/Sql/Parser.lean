/-
Parsers over the tokens that are left.

A parser takes tokens from the front of the list or fails; failing takes nothing,
so `p <|> q` tries `q` on the same tokens.  A loop may run once for every token
that is left, which bounds it without a proof that each round takes one.
-/
import Stencil.Sql.Name
import Stencil.Sql.Token

namespace Stencil.Sql

/-- A parser of a value. -/
abbrev Parser (α : Type) := StateT (List Token) Option α

namespace Parser

/-- How many rounds a loop may have: one for each token left, and one more. -/
def rounds : Parser Nat := fun ts => some (ts.length + 1, ts)

/-- The next token, left in place. -/
def peek? : Parser (Option Token) := fun ts => some (ts.head?, ts)

/-- The token some places ahead, left in place. -/
def peekAt? (n : Nat) : Parser (Option Token) := fun ts => some (ts[n]?, ts)

/-- The next token. -/
def next : Parser Token
  | [] => none
  | t :: ts => some (t, ts)

/-- No token is left. -/
def atEnd : Parser Bool := fun ts => some (ts.isEmpty, ts)

/-- The value, if the parser succeeds; otherwise no token is taken. -/
def attempt (p : Parser α) : Parser (Option α) := fun ts =>
  match p ts with
  | some (a, rest) => some (some a, rest)
  | none => some (none, ts)

/-- The next token is one of the keywords. -/
def peekKeys (keys : List String) : Parser Bool := do
  match ← peek? with
  | some t => pure (t.isAnyKey keys)
  | none => pure false

/-- The next token is the symbol. -/
def peekSymbol (s : String) : Parser Bool := do
  match ← peek? with
  | some t => pure (t.isSymbol s)
  | none => pure false

/-- Takes the keyword if it comes next. -/
def key? (key : String) : Parser Bool := fun ts =>
  match ts with
  | t :: rest => if t.isKey key then some (true, rest) else some (false, ts)
  | [] => some (false, [])

/-- Takes the keyword. -/
def key (k : String) : Parser Unit := do
  if ← key? k then pure () else failure

/-- Takes all the keywords in order. -/
def keys : List String → Parser Unit
  | [] => pure ()
  | k :: rest => do
    key k
    keys rest

/-- Takes all the keywords if they come next in order, else none. -/
def keys? (ks : List String) : Parser Bool := do
  return (← attempt (keys ks)).isSome

/-- Takes one of the keywords if one comes next. -/
def anyKey? (ks : List String) : Parser (Option String) := fun ts =>
  match ts with
  | t :: rest => if t.isAnyKey ks then some (t.key?, rest) else some (none, ts)
  | [] => some (none, [])

/-- Takes one of the keywords. -/
def anyKey (ks : List String) : Parser String := do
  match ← anyKey? ks with
  | some k => pure k
  | none => failure

/-- Takes the first of the phrases that comes next, each a list of keywords. -/
def anyKeys? : List (List String) → Parser (Option String)
  | [] => pure none
  | ks :: rest => do
    if ← keys? ks then return some (Text.join " " ks) else anyKeys? rest

/-- Takes the symbol if it comes next. -/
def symbol? (s : String) : Parser Bool := fun ts =>
  match ts with
  | t :: rest => if t.isSymbol s then some (true, rest) else some (false, ts)
  | [] => some (false, [])

/-- Takes the symbol. -/
def symbol (s : String) : Parser Unit := do
  if ← symbol? s then pure () else failure

/-- Takes all the symbols if they come next in order, else none. -/
def symbols? (ss : List String) : Parser Bool := do
  return (← attempt (ss.forM symbol)).isSome

/-- What stands between parentheses. -/
def inParens (p : Parser α) : Parser α := do
  symbol "("
  let a ← p
  symbol ")"
  return a

/-- Items as long as `more` says that another follows. -/
def manyWhile (more : Parser Bool) (p : Parser α) : Nat → Parser (List α)
  | 0 => pure []
  | n + 1 => do
    if ← more then
      let a ← p
      let rest ← manyWhile more p n
      return a :: rest
    else return []

/-- One item or more with commas in between. -/
def commaList (p : Parser α) : Parser (List α) := do
  let first ← p
  let rest ← manyWhile (symbol? ",") p (← rounds)
  return first :: rest

/-- Items with commas in between, or none if the closing symbol follows. -/
def commaListUntil (close : String) (p : Parser α) : Parser (List α) := do
  if ← peekSymbol close then return [] else commaList p

/-- Items for as long as the keywords that introduce one follow. -/
def manyAfter (ks : List String) (p : Parser α) : Parser (List α) := do
  manyWhile (keys? ks) p (← rounds)

/-! ### Names, numbers and strings -/

/-- A token as a name: a word, or a string in plain notation. -/
def nameOf? : Token → Option Name
  | .word text quote _ => some ⟨text, quote⟩
  | .string .plain value => some ⟨value, some '\x27'⟩
  | _ => none

/-- A name. -/
def name : Parser Name := do
  match nameOf? (← next) with
  | some n => pure n
  | none => failure

/-- A word as a name. -/
def wordName : Parser Name := do
  match ← next with
  | .word text quote _ => pure ⟨text, quote⟩
  | _ => failure

/-- A name of one part or more. -/
def qualifiedName : Parser QualifiedName := do
  let first ← name
  let rest ← manyWhile (symbol? ".") name (← rounds)
  return first :: rest

/-- Names between parentheses. -/
def nameList : Parser (List Name) := inParens (commaList name)

/-- Names between parentheses, if a parenthesis opens. -/
def nameList? : Parser (List Name) := do
  if ← peekSymbol "(" then nameList else pure []

/-- A name introduced by AS, or any word that is not reserved at this place. -/
def optionalAlias (reserved : List String) : Parser (Option Name) := do
  if ← key? "AS" then return some (← name)
  match ← peek? with
  | some t =>
    if t.isAnyKey reserved then return none
    match nameOf? t with
    | some n =>
      let _ ← next
      return some n
    | none => return none
  | none => return none

/-- A whole number of 64 bits, written without a sign. -/
def wholeNumber : Parser Nat := do
  match ← next with
  | .number text _ =>
    let digits := text.toList
    if digits.all Char.isDigit then
      let n := digits.foldl (fun n c => n * 10 + (c.toNat - '0'.toNat)) 0
      if n < Nat.pow 2 64 then pure n else failure
    else failure
  | _ => failure

end Parser
end Stencil.Sql
