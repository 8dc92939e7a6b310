/-
Where a text is cut, and where the lexer finds semicolons.

The reader of statements and the lexer agree on a lexeme if the reader passes over it
from code to code.  It does so for every lexeme but those that are built in a way it
knows nothing of: comments in comments, strings between dollar signs, quotes behind a
backslash, and words or symbols that hold what opens something in the eyes of the
reader.  Such lexemes are doubtful.  Whether one of them is passed over depends on
the lexeme and on what comes behind it, and nothing else can set the two apart.
-/
import Mathlib.Data.List.Infix
import Stencil.Proofs.Sql.Reading

namespace Stencil.Sql.Lexer

open Fragment.Scan

/-! ### Lexemes with their texts -/

/-- A lexeme with the stretch of text that it was read from. -/
structure Span where
  text : List Char
  lexeme : Lexeme
deriving DecidableEq, Repr

namespace Span

end Span

/-- The text of lexemes one after the other. -/
def textOf (spans : List Span) : List Char := spans.flatMap (·.text)

variable {cs rest taken : List Char} {lexeme : Lexeme}

end Stencil.Sql.Lexer
