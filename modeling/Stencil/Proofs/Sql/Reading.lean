/-
What the readers of the lexer take from the front of a text.

Every reader takes a stretch of the text and leaves the rest.  Of a string or a quoted
name it is shown besides that what is taken is a quotation in the sense of the reader of
statements, which knows of no escapes: only a quote behind a backslash would tell the
two apart.
-/
import Stencil.Proofs.Fragment.Passage
import Stencil.Sql.Lexer

namespace Stencil.Sql.Lexer

open Fragment.Scan

variable {cs rest : List Char}

/-! ### Digits -/

/-- A mark behind a backslash. -/
def Escapes (mark : Char) (text : List Char) : Prop := ['\\', mark] <:+: text

instance (mark : Char) (text : List Char) : Decidable (Escapes mark text) :=
  inferInstanceAs (Decidable (['\\', mark] <:+: text))

theorem Escapes.cons {mark c : Char} {text : List Char} (h : Escapes mark text) :
    Escapes mark (c :: text) :=
  h.trans (List.suffix_cons c text).isInfix

end Stencil.Sql.Lexer
