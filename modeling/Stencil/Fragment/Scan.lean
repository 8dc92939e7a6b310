/-
The states of a reader of SQL text, and the cuts between statements.

The reader is in code, in a literal or name between quotes, or in a comment.
The two characters that open a comment, and the two that close one with `/*`,
are read together.  A semicolon cuts the text only in code; quotes are closed by
the character that opened them, a line comment by the line feed.
-/
import Stencil.Text.Blank

namespace Stencil.Fragment

/-- What the reader is inside of. -/
inductive Scan where
  | code
  | quoted (mark : Char)
  | lineComment
  | blockComment
deriving DecidableEq, Repr

namespace Scan

/-- The characters that open and close a quoted stretch. -/
def isQuote (c : Char) : Bool := c == '\x27' || c == '\x22' || c == '\x60'

/-- The state behind a character that is read alone. -/
def step : Scan → Char → Scan
  | code, c => if isQuote c then quoted c else code
  | quoted mark, c => if c == mark then code else quoted mark
  | lineComment, c => if c == '\n' then code else lineComment
  | blockComment, _ => blockComment

/-- The state behind a text. -/
def run : Scan → List Char → Scan
  | state, [] => state
  | code, '-' :: '-' :: rest => run lineComment rest
  | code, '/' :: '*' :: rest => run blockComment rest
  | blockComment, '*' :: '/' :: rest => run code rest
  | state, c :: rest => run (state.step c) rest

/-- The pieces between the cuts; `piece` holds the current one backwards. -/
def splitFrom : Scan → List Char → List Char → List (List Char)
  | _, piece, [] => [piece.reverse]
  | code, piece, '-' :: '-' :: rest => splitFrom lineComment ('-' :: '-' :: piece) rest
  | code, piece, '/' :: '*' :: rest => splitFrom blockComment ('*' :: '/' :: piece) rest
  | blockComment, piece, '*' :: '/' :: rest => splitFrom code ('/' :: '*' :: piece) rest
  | code, piece, ';' :: rest => piece.reverse :: splitFrom code [] rest
  | state, piece, c :: rest => splitFrom (state.step c) (c :: piece) rest

/-- The text between the semicolons that stand in code. -/
def split (text : List Char) : List (List Char) := splitFrom code [] text

/-- What is left behind blanks and whole comments, read from a state. -/
def dropLeadFrom : Scan → List Char → List Char
  | _, [] => []
  | code, '-' :: '-' :: rest => dropLeadFrom lineComment rest
  | code, '/' :: '*' :: rest => dropLeadFrom blockComment rest
  | blockComment, '*' :: '/' :: rest => dropLeadFrom code rest
  | code, c :: rest => if Text.isBlank c then dropLeadFrom code rest else c :: rest
  | lineComment, c :: rest => dropLeadFrom (if c == '\n' then code else lineComment) rest
  | blockComment, _ :: rest => dropLeadFrom blockComment rest
  | quoted _, rest => rest

/-- A piece without the blanks and comments in front and the blanks at the end. -/
def statement (piece : List Char) : List Char :=
  Text.dropEndBlanks (dropLeadFrom code piece)

/-- The statements of a text: its pieces, stripped, the empty ones left out. -/
def statements (text : List Char) : List (List Char) :=
  ((split text).map statement).filter fun s => !s.isEmpty

end Scan
end Stencil.Fragment
