/-
Strings and comments of TOML.

Double quotes allow escapes, single quotes take every character as it is.  Three
quotes open a text of several lines, in which a line feed right behind them does
not count and one or two quotes may stand anywhere, even in front of the closing
three.  Control characters are refused everywhere, the tab excepted.
-/
import Stencil.Reader
import Stencil.Text.Hex

namespace Stencil.Toml

open Reader (one run char text many exactly)

/-- A character that may stand in a string or a comment. -/
def isTextChar (c : Char) : Bool := c == '\t' || (0x20 ≤ c.toNat && c.toNat != 0x7F)

/-- The blanks inside a line. -/
def isSpace (c : Char) : Bool := c == ' ' || c == '\t'

/-- Blanks, or none. -/
def spaces : Reader Unit := discard (run isSpace)

/-- The end of a line that is not the last one. -/
def lineFeed : Reader Unit := char '\n' <|> text ['\r', '\n']

/-- A comment up to the end of its line. -/
def comment : Reader Unit := char '#' *> discard (run isTextChar)

/-! ### Escapes -/

/-- A character given by its number in a fixed count of hexadecimal digits. -/
def codePoint (count : Nat) : Reader Char := do
  let n := Text.valueInBase 16 (← exactly (one Text.isHexDigit) count)
  if n.isValidChar then return Char.ofNat n else failure

/-- What stands behind a backslash. -/
def escape : Reader Char := do
  match ← one fun _ => true with
  | 'b' => return '\x08'
  | 't' => return '\t'
  | 'n' => return '\n'
  | 'f' => return '\x0c'
  | 'r' => return '\r'
  | '\x22' => return '\x22'
  | '\\' => return '\\'
  | 'u' => codePoint 4
  | 'U' => codePoint 8
  | _ => failure

/-- A line end that is passed over together with the blank lines and the blanks behind it. -/
def continuation : Reader Unit := do
  spaces
  lineFeed
  let _ ← many (discard (one isSpace) <|> lineFeed)

/-! ### Strings in one line -/

/-- A character between double quotes. -/
def basicChar : Reader Char :=
  one (fun c => isTextChar c && c != '\x22' && c != '\\') <|> (char '\\' *> escape)

/-- A string in double quotes. -/
def basicString : Reader (List Char) := char '\x22' *> many basicChar <* char '\x22'

/-- A string in single quotes. -/
def literalString : Reader (List Char) :=
  char '\x27' *> run (fun c => isTextChar c && c != '\x27') <* char '\x27'

/-! ### Strings of several lines -/

/-- One or two quotes that do not close a text. -/
def fewQuotes (quote : Char) : Reader (List Char) := do
  let quotes ← run (· == quote)
  if quotes.length = 1 ∨ quotes.length = 2 then return quotes else failure

/-- Three quotes that close a text, with at most two in front that belong to it. -/
def closingQuotes (quote : Char) : Reader (List Char) := do
  let quotes ← run (· == quote)
  if 3 ≤ quotes.length ∧ quotes.length ≤ 5 then return quotes.drop 3 else failure

/-- A text of several lines made of pieces. -/
def multiline (quote : Char) (piece : Reader (List Char)) : Reader (List Char) := do
  text [quote, quote, quote]
  let _ ← Reader.optional lineFeed
  let pieces ← many (piece <|> fewQuotes quote)
  return pieces.flatten ++ (← closingQuotes quote)

/-- A line end as it counts in a text. -/
def lineEnd : Reader (List Char) := lineFeed *> pure ['\n']

/-- A piece of a text in double quotes. -/
def basicPiece : Reader (List Char) :=
  (do return [← basicChar]) <|> lineEnd <|> (char '\\' *> continuation *> pure [])

/-- A piece of a text in single quotes. -/
def literalPiece : Reader (List Char) :=
  (do return [← one fun c => isTextChar c && c != '\x27']) <|> lineEnd

/-- A string of any form; three quotes always open a text of several lines. -/
def anyString : Reader String := do
  let opens (quote : Char) : Reader Bool := fun cs =>
    some ([quote, quote, quote].isPrefixOf cs, cs)
  let cs ←
    if ← opens '\x22' then multiline '\x22' basicPiece
    else if ← opens '\x27' then multiline '\x27' literalPiece
    else basicString <|> literalString
  return String.ofList cs

end Stencil.Toml
