/-
Reading TOML.

Arrays may run over several lines and end with a comma, inline tables may do
neither.  Values are nested at most `maxDepth` deep, and a key has at most that
many names.  A text that breaks any rule is no document at all.
-/
import Stencil.Toml.Scalar
import Stencil.Toml.Table
import Stencil.Toml.Text

namespace Stencil.Toml

open Reader (one run char text many separated atEnd)

/-- How deep values may be nested. -/
def maxDepth : Nat := 79

/-! ### Keys -/

/-- A character of a name without quotes. -/
def isBareChar (c : Char) : Bool := c.isAlphanum || c == '_' || c == '-'

/-- A name without quotes. -/
def bareName : Reader (List Char) := do
  match ← run isBareChar with
  | [] => failure
  | cs => return cs

/-- A name of a key, blanks around it allowed. -/
def keyName : Reader String := do
  spaces
  let cs ← basicString <|> literalString <|> bareName
  spaces
  return String.ofList cs

/-- A key: names with points in between. -/
def key : Reader Path := do
  let names ← separated (char '.') keyName
  match names.getLast? with
  | some name => if names.length ≤ maxDepth then return ⟨names.dropLast, name⟩ else failure
  | none => failure

/-! ### Values -/

/-- Blanks, comments and line ends. -/
def gap : Reader Unit :=
  discard (many (discard (one isSpace) <|> lineFeed <|> (comment *> lineFeed)))

/-- An array of values. -/
def arrayOf (value : Reader Toml) : Reader Toml := do
  char '['
  let item := gap *> value <* gap
  let items ← Reader.optional (separated (char ',') item <* Reader.optional (char ','))
  gap
  char ']'
  return array (items.getD [])

/-- A pair with blanks around its value. -/
def pair (value : Reader Toml) : Reader (Path × Toml) := do
  let path ← key
  char '='
  spaces
  let v ← value
  spaces
  return (path, v)

/-- A table between braces. -/
def inlineOf (value : Reader Toml) : Reader Toml := do
  char '\x7b'
  let pairs ← Reader.optional (separated (char ',') (pair value))
  spaces
  char '\x7d'
  match inlineTable (pairs.getD []) with
  | some t => return t
  | none => failure

/-- A string or a plain value. -/
def simple : Reader Toml := (string <$> anyString) <|> plainValue

/-- A value in which others are nested at most `depth` deep. -/
def valueOf : Nat → Reader Toml
  | 0 => simple
  | depth + 1 => simple <|> arrayOf (valueOf depth) <|> inlineOf (valueOf depth)

/-- A value. -/
def value : Reader Toml := valueOf maxDepth

/-! ### Lines -/

/-- The end of a line, or of the text. -/
def lineEnds : Reader Unit := lineFeed <|> atEnd

/-- What may stand behind the content of a line. -/
def trailing : Reader Unit := do
  spaces
  let _ ← Reader.optional comment
  lineEnds

/-- A line with content. -/
def line : Reader Line :=
  ((Line.element <$> (text ['[', '['] *> key <* text [']', ']']))
    <|> (Line.header <$> (char '[' *> key <* char ']'))
    <|> ((fun (path, v) => Line.pair path v) <$> pair value)) <* trailing

/-- A line, if it has content. -/
def anyLine : Reader (Option Line) := do
  let l ← (some <$> line) <|> (comment *> lineEnds *> pure none) <|> (lineFeed *> pure none)
  spaces
  return l

/-- The lines of a document, which may begin with a byte order mark. -/
def document : Reader (List Line) := do
  let _ ← Reader.optional (char '\ufeff')
  spaces
  let lines ← many anyLine
  return lines.filterMap id

/-- The document that a text holds. -/
def read? (s : String) : Option Toml := (document.whole? s.toList).bind ofLines?

end Stencil.Toml
