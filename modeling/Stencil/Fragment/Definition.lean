/-
Statements that define a fragment.

A definition is a name, the sign `:=` and a value.  The name is the first word of
the statement if the sign follows it, blanks allowed in between; otherwise the
sign must stand inside the first word, and the name is what comes before its last
occurrence there.  The value is everything behind the sign, trimmed.  Name and
value may come out empty, which makes the definition illegal but still one.
-/
import Stencil.Text.Blank
import Stencil.Text.Search

namespace Stencil.Fragment

/-- A name and the text it is to stand for. -/
structure Definition where
  name : List Char
  value : List Char
deriving DecidableEq, Repr

namespace Definition

/-- The sign between name and value. -/
def sign : List Char := [':', '=']

/-- The text before and behind the last occurrence of the sign. -/
def lastSign? : List Char → Option (List Char × List Char)
  | [] => none
  | c :: rest =>
    match lastSign? rest with
    | some (before, behind) => some (c :: before, behind)
    | none => (Text.after? sign (c :: rest)).map fun behind => ([], behind)

/-- Reads a statement as a definition. -/
def read? (statement : List Char) : Option Definition :=
  let word := statement.takeWhile fun c => !Text.isBlank c
  let rest := statement.dropWhile fun c => !Text.isBlank c
  match Text.after? sign (Text.dropBlanks rest) with
  | some value => some ⟨word, Text.trimmed value⟩
  | none => (lastSign? word).map fun (name, behind) => ⟨name, Text.trimmed (behind ++ rest)⟩

end Definition
end Stencil.Fragment
