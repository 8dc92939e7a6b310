/-
Writing JSON, two blanks per level.

Every item of an array and every member of an object stands on a line of its
own; an empty array or object is a pair of brackets.  In a string the quote, the
backslash and the control characters are escaped, and nothing else is.  A double
always has a point, so it reads back as a double.
-/
import Stencil.Decimal.Shortest
import Stencil.Json.Value

namespace Stencil.Json

/-- The hexadecimal digits of a control character. -/
def controlDigits (c : Char) : List Char :=
  let n := c.toNat
  [Nat.digitChar (n / 16), Nat.digitChar (n % 16)]

/-- A character as it is written between quotes. -/
def escape (c : Char) : List Char :=
  if c == '\x22' then ['\\', '\x22']
  else if c == '\\' then ['\\', '\\']
  else if c == '\n' then ['\\', 'n']
  else if c == '\r' then ['\\', 'r']
  else if c == '\t' then ['\\', 't']
  else if c == '\x08' then ['\\', 'b']
  else if c == '\x0c' then ['\\', 'f']
  else if c.toNat < 0x20 then ['\\', 'u', '0', '0'] ++ controlDigits c
  else [c]

/-- A string with its quotes. -/
def quoted (s : String) : List Char := '\x22' :: (s.toList.flatMap escape ++ ['\x22'])

/-- A double in positional notation, with a point. -/
def doubleText (x : Decimal.Binary64) : List Char :=
  let text := x.text.toList
  if text.contains '.' then text else text ++ ['.', '0']

/-- A line feed and the blanks of a level. -/
def newline (level : Nat) : List Char := '\n' :: List.replicate (2 * level) ' '

mutual

/-- The text of a document that stands at a level. -/
def layout (level : Nat) : Json → List Char
  | null => "null".toList
  | bool b => (if b then "true" else "false").toList
  | integer i => (toString i).toList
  | double x => doubleText x
  | string s => quoted s
  | array [] => ['[', ']']
  | array (item :: rest) =>
    '[' :: (newline (level + 1) ++ item.layout (level + 1) ++ layoutItems (level + 1) rest
      ++ newline level ++ [']'])
  | object [] => ['\x7b', '\x7d']
  | object ((name, value) :: rest) =>
    '\x7b' :: (newline (level + 1) ++ quoted name ++ [':', ' '] ++ value.layout (level + 1)
      ++ layoutMembers (level + 1) rest ++ newline level ++ ['\x7d'])

/-- The items behind the first, each with its comma. -/
def layoutItems (level : Nat) : List Json → List Char
  | [] => []
  | item :: rest => ',' :: (newline level ++ item.layout level ++ layoutItems level rest)

/-- The members behind the first, each with its comma. -/
def layoutMembers (level : Nat) : List (String × Json) → List Char
  | [] => []
  | (name, value) :: rest =>
    ',' :: (newline level ++ quoted name ++ [':', ' '] ++ value.layout level
      ++ layoutMembers level rest)

end

/-- The document as text. -/
def pretty (j : Json) : String := String.ofList (j.layout 0)

end Stencil.Json
