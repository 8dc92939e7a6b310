/-
From text to tokens.

`next?` takes one lexeme from the front of a text, either a token or a stretch
that separates tokens: blanks, a line comment up to its line feed, or a block
comment, which may contain others.  It fails where a string, a quoted name or a
block comment is left open.

Words begin with a letter of any alphabet, an underscore, `#` or `@`, and go on
with these, decimal digits and `$`.  Names between double quotes or backticks
may hold anything; a quote inside is written twice.
-/
import Stencil.Sql.Token
import Stencil.Text.Blank
import Stencil.Text.Case
import Stencil.Text.Letter

namespace Stencil.Sql

/-- What stands at the front of a text: a token, or a separator. -/
inductive Lexeme where
  | token (t : Token)
  | separator
deriving DecidableEq, Repr

namespace Lexer

/-- A reader takes something from the front of a text, or fails. -/
abbrev Reader (α : Type) := List Char → Option (α × List Char)

def startsWord (c : Char) : Bool := c == '_' || c == '#' || c == '@' || Text.isLetter c

def continuesWord (c : Char) : Bool := startsWord c || c.isDigit || c == '$'

/-- An unquoted word. -/
def plainWord (cs : List Char) : Token :=
  let text := String.ofList cs
  .word text none (Text.upper text)

/-- The word that begins with the given characters. -/
def word (start : List Char) (cs : List Char) : Lexeme × List Char :=
  (.token (plainWord (start ++ cs.takeWhile continuesWord)), cs.dropWhile continuesWord)

/-! ### Strings and quoted names -/

/-- The character a letter behind a backslash stands for. -/
def backslashed (c : Char) : Char :=
  match c with
  | '0' => '\x00'
  | 'a' => '\x07'
  | 'b' => '\x08'
  | 'f' => '\x0c'
  | 'n' => '\n'
  | 'r' => '\r'
  | 't' => '\t'
  | 'Z' => '\x1a'
  | c => c

/-- The text up to the closing quote, which is written twice inside; backslashes may escape. -/
def quoted (mark : Char) (backslash : Bool) : Reader (List Char)
  | [] => none
  | [c] => if c == mark then some ([], []) else none
  | c :: d :: rest =>
    if c == mark then
      if d == mark then (quoted mark backslash rest).map fun (s, rest) => (mark :: s, rest)
      else some ([], d :: rest)
    else if backslash && c == '\\' then
      (quoted mark backslash rest).map fun (s, rest) => (backslashed d :: s, rest)
    else (quoted mark backslash (d :: rest)).map fun (s, rest) => (c :: s, rest)

/-- The value of a digit of a base up to sixteen. -/
def digitOf? (base : Nat) (c : Char) : Option Nat :=
  let n :=
    if '0' ≤ c && c ≤ '9' then c.toNat - '0'.toNat
    else if 'a' ≤ c && c ≤ 'f' then c.toNat - 'a'.toNat + 10
    else if 'A' ≤ c && c ≤ 'F' then c.toNat - 'A'.toNat + 10
    else 16
  if n < base then some n else none

/-- The character with a code point; the zero character and surrogates are refused. -/
def scalar? (n : Nat) : Option Char :=
  if n == 0 then none else if n.isValidChar then some (Char.ofNat n) else none

/-- A given number of digits in base sixteen. -/
def hexDigits : Nat → Nat → Reader Nat
  | 0, n, cs => some (n, cs)
  | _ + 1, _, [] => none
  | count + 1, n, c :: rest => (digitOf? 16 c).bind fun d => hexDigits count (n * 16 + d) rest

/-- Up to a given number of digits of a base, and what they add to a value. -/
def upToDigits (base : Nat) : Nat → Nat → List Char → Nat × List Char
  | 0, n, cs => (n, cs)
  | _ + 1, n, [] => (n, [])
  | count + 1, n, c :: rest =>
    match digitOf? base c with
    | some d => upToDigits base count (n * base + d) rest
    | none => (n, c :: rest)

/-- A byte as a character, if it is one of ASCII and not zero. -/
def byteChar? (n : Nat) : Option Char :=
  if n % 256 ≤ 127 then scalar? (n % 256) else none

/-- What a backslash introduces in an escape string. -/
def escapeSequence : Reader Char
  | [] => none
  | 'b' :: rest => some ('\x08', rest)
  | 'f' :: rest => some ('\x0c', rest)
  | 'n' :: rest => some ('\n', rest)
  | 'r' :: rest => some ('\r', rest)
  | 't' :: rest => some ('\t', rest)
  | 'u' :: rest => do
    let (n, rest) ← hexDigits 4 0 rest
    let c ← scalar? n
    some (c, rest)
  | 'U' :: rest => do
    let (n, rest) ← hexDigits 8 0 rest
    let c ← scalar? n
    some (c, rest)
  | 'x' :: rest =>
    let (n, behind) := upToDigits 16 2 0 rest
    if behind.length == rest.length then some ('x', rest)
    else (byteChar? n).map fun c => (c, behind)
  | c :: rest =>
    match digitOf? 8 c with
    | some d =>
      let (n, rest) := upToDigits 8 2 d rest
      (byteChar? n).map fun c => (c, rest)
    | none => if c == '\x00' then none else some (c, rest)

/-- The text of an escape string behind its opening quote; `fuel` bounds its characters. -/
def escapedString (done : List Char) : Nat → Reader (List Char)
  | 0, _ => none
  | _ + 1, [] => none
  | fuel + 1, c :: rest =>
    if c == '\x27' then
      match rest with
      | '\x27' :: rest => escapedString ('\x27' :: done) fuel rest
      | rest => some (done.reverse, rest)
    else if c == '\\' then
      match escapeSequence rest with
      | some (e, rest) => escapedString (e :: done) fuel rest
      | none => none
    else escapedString (c :: done) fuel rest

/-- The code point behind a backslash: four digits, or a plus sign and six. -/
def codePoint : Reader Char
  | '\\' :: rest => some ('\\', rest)
  | '+' :: rest => do
    let (n, rest) ← hexDigits 6 0 rest
    if n.isValidChar then some (Char.ofNat n, rest) else none
  | rest => do
    let (n, rest) ← hexDigits 4 0 rest
    if n.isValidChar then some (Char.ofNat n, rest) else none

/-- The text of a string with code points behind its opening quote. -/
def unicodeString (done : List Char) : Nat → Reader (List Char)
  | 0, _ => none
  | _ + 1, [] => none
  | fuel + 1, c :: rest =>
    if c == '\x27' then
      match rest with
      | '\x27' :: rest => unicodeString ('\x27' :: done) fuel rest
      | rest => some (done.reverse, rest)
    else if c == '\\' then
      match codePoint rest with
      | some (e, rest) => unicodeString (e :: done) fuel rest
      | none => none
    else unicodeString (c :: done) fuel rest

/-- The text between double dollar signs; a single one inside stands for itself. -/
def betweenDollars : Reader (List Char)
  | [] => none
  | '$' :: '$' :: rest => some ([], rest)
  | c :: rest => (betweenDollars rest).map fun (s, rest) => (c :: s, rest)

/-- Compares a text with a tag and its dollar sign: if they agree, what was passed, the rest. -/
def closingTag? : List Char → List Char → Option (Bool × List Char × List Char)
  | [], '$' :: rest => some (true, [], rest)
  | [], rest => some (false, [], rest)
  | _ :: _, [] => none
  | t :: tag, c :: rest =>
    if t == c then (closingTag? tag rest).map fun (whole, s, rest) => (whole, c :: s, rest)
    else some (false, [c], rest)

/-- The text up to a tag between dollar signs; `fuel` bounds its characters. -/
def tagged (tag : List Char) : Nat → Reader (List Char)
  | 0, _ => none
  | _ + 1, [] => none
  | fuel + 1, c :: rest =>
    if c == '$' then
      match closingTag? tag rest with
      | none => none
      | some (true, _, rest) => some ([], rest)
      | some (false, passed, rest) =>
        (tagged tag fuel rest).map fun (s, rest) => (c :: (passed ++ s), rest)
    else (tagged tag fuel rest).map fun (s, rest) => (c :: s, rest)

/-- What a dollar sign introduces: a string between tags, or a placeholder. -/
def dollar : Reader Token
  | '$' :: rest =>
    (betweenDollars rest).map fun (s, rest) => (.string (.dollar "") (String.ofList s), rest)
  | cs =>
    let isTag := fun c => c == '_' || Text.isAlphanumeric c
    let tag := cs.takeWhile isTag
    match cs.dropWhile isTag with
    | '$' :: rest =>
      (tagged tag (rest.length + 1) rest).map fun (s, rest) =>
        (.string (.dollar (String.ofList tag)) (String.ofList s), rest)
    | rest => some (.placeholder (String.ofList ('$' :: tag)), rest)

/-! ### Numbers -/

/-- The power of ten behind a number, if digits follow its letter and sign. -/
def exponent (cs : List Char) : List Char × List Char :=
  match cs with
  | e :: s :: rest =>
    if e == 'e' || e == 'E' then
      let (sign, digits) := if s == '+' || s == '-' then ([s], rest) else ([], s :: rest)
      let power := digits.takeWhile Char.isDigit
      if power.isEmpty then ([], cs) else (e :: (sign ++ power), digits.dropWhile Char.isDigit)
    else ([], cs)
  | _ => ([], cs)

/-- A number, a hexadecimal string or a lone point. -/
def number (cs : List Char) : Token × List Char :=
  let whole := cs.takeWhile Char.isDigit
  match whole, cs.dropWhile Char.isDigit with
  | ['0'], 'x' :: rest =>
    let isHex := fun c => (digitOf? 16 c).isSome
    (.string .hex (String.ofList (rest.takeWhile isHex)), rest.dropWhile isHex)
  | _, rest =>
    let (point, rest) : List Char × List Char :=
      match rest with
      | '.' :: rest => (['.'], rest)
      | rest => ([], rest)
    let fraction := rest.takeWhile Char.isDigit
    let rest := rest.dropWhile Char.isDigit
    if whole.isEmpty && fraction.isEmpty then (.symbol ".", rest)
    else
      let (power, rest) := exponent rest
      let text := String.ofList (whole ++ point ++ fraction ++ power)
      match rest with
      | 'L' :: rest => (.number text true, rest)
      | rest => (.number text false, rest)

/-! ### Comments and symbols -/

/-- The text behind a block comment; `depth` counts the comments open inside it. -/
def blockComment : Nat → Char → List Char → Option (List Char)
  | _, _, [] => none
  | depth, last, c :: rest =>
    if last == '/' && c == '*' then blockComment (depth + 1) c rest
    else if last == '*' && c == '/' then
      match depth with
      | 0 => some rest
      | depth + 1 => blockComment depth c rest
    else blockComment depth c rest

/-- The text behind a line comment. -/
def lineComment (cs : List Char) : List Char := (cs.dropWhile (· != '\n')).drop 1

/-- The symbols of more than one character, those that begin with another symbol first. -/
def longSymbols : List String :=
  ["->>", "->", "//", "||/", "||", "|/", "=>", "==", "!~~*", "!~~", "!~*", "!~", "!=", "!!",
   "<=>", "<=", "<>", "<<", "<@", ">=", ">>", "::", ":=", "&&", "^@", "~~*", "~~", "~*",
   "#-", "#>>", "#>", "@>", "@?"]

/-- The symbols of one character. -/
def shortSymbols : List Char :=
  ['(', ')', ',', ';', '+', '-', '*', '/', '%', '=', '<', '>', '!', '|', '&', '^', '~', ':',
   '\\', '[', ']', '\x7b', '\x7d']

/-- The longest symbol at the front of a text; inequality has one form. -/
def symbol? (cs : List Char) : Option (String × List Char) :=
  match longSymbols.find? fun s => s.toList.isPrefixOf cs with
  | some s => some (if s == "!=" then "<>" else s, cs.drop s.length)
  | none =>
    match cs with
    | c :: rest => if shortSymbols.contains c then some (String.singleton c, rest) else none
    | [] => none

/-- What `#` or `@` introduces when no longer symbol does: itself, or a word. -/
def sign (signs : List Char) : List Char → Lexeme × List Char
  | [] => (.token (.symbol (String.ofList signs)), [])
  | c :: rest =>
    if c == ' ' then (.token (.symbol (String.ofList signs)), c :: rest)
    else word (signs ++ [c]) rest

/-! ### One lexeme -/

/-- A string of a notation that follows the letters in front of its quote. -/
def stringOf (kind : StringNotation) (result : Option (List Char × List Char)) :
    Option (Lexeme × List Char) :=
  result.map fun (s, rest) => (.token (.string kind (String.ofList s)), rest)

/-- A letter that may introduce a string, or else begins a word. -/
def letter (c : Char) (rest : List Char) : Option (Lexeme × List Char) :=
  match c.toLower, rest with
  | 'b', '\x27' :: cs => stringOf (.bytes '\x27') (quoted '\x27' false cs)
  | 'b', '\x22' :: cs => stringOf (.bytes '\x22') (quoted '\x22' false cs)
  | 'r', '\x27' :: cs => stringOf (.raw '\x27') (quoted '\x27' false cs)
  | 'r', '\x22' :: cs => stringOf (.raw '\x22') (quoted '\x22' false cs)
  | 'n', '\x27' :: cs => stringOf .national (quoted '\x27' true cs)
  | 'x', '\x27' :: cs => stringOf .hex (quoted '\x27' true cs)
  | 'e', '\x27' :: cs => stringOf .escaped (escapedString [] (cs.length + 1) cs)
  | 'u', '&' :: '\x27' :: cs => stringOf .unicode (unicodeString [] (cs.length + 1) cs)
  | _, _ => some (word [c] rest)

/-- The lexeme at the front of a text. -/
def next? : List Char → Option (Lexeme × List Char)
  | [] => none
  | '-' :: '-' :: rest => some (.separator, lineComment rest)
  | '/' :: '*' :: rest => (blockComment 0 ' ' rest).map fun rest => (.separator, rest)
  | '@' :: '@' :: rest => some (sign ['@', '@'] rest)
  | c :: rest =>
    if c == '\x27' then stringOf .plain (quoted c false rest)
    else if c == '\x22' || c == '\x60' then
      (quoted c false rest).map fun (s, rest) =>
        (.token (.word (String.ofList s) (some c) ""), rest)
    else if c.isDigit || c == '.' then
      let (t, rest) := number (c :: rest)
      some (.token t, rest)
    else if c == '$' then (dollar rest).map fun (t, rest) => (.token t, rest)
    else if c == '?' then
      let digits := rest.takeWhile Text.isNumber
      some (.token (.placeholder (String.ofList (c :: digits))), rest.dropWhile Text.isNumber)
    else
      match symbol? (c :: rest) with
      | some (s, rest) => some (.token (.symbol s), rest)
      | none =>
        if c == '#' || c == '@' then some (sign [c] rest)
        else if startsWord c then letter c rest
        else if Text.isBlank c then some (.separator, rest)
        else some (.token (.stray c), rest)

/-- The tokens of a text of at most `fuel` lexemes. -/
def tokensFrom : Nat → List Char → Option (List Token)
  | _, [] => some []
  | 0, _ :: _ => none
  | fuel + 1, c :: cs =>
    match next? (c :: cs) with
    | none => none
    | some (.separator, rest) => tokensFrom fuel rest
    | some (.token t, rest) => (tokensFrom fuel rest).map (t :: ·)

/-- The tokens of a text. -/
def tokens? (text : List Char) : Option (List Token) := tokensFrom text.length text

end Lexer
end Stencil.Sql
