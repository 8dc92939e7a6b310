/-
Names, and how quoted text is written out.

A name remembers the quotes it was written in and is written out in them again.
A quote inside is written twice; two adjacent ones are taken to be one that is
written twice already, and one behind a backslash is left alone.
-/
import Stencil.Text.Search

namespace Stencil.Sql

/-- A name, with its quotes if it had any. -/
structure Name where
  text : String
  quote : Option Char
deriving DecidableEq, Repr

/-- A name of several parts, as of a table in a database. -/
abbrev QualifiedName := List Name

/-- The characters of a quoted text; `escaped` says that a backslash is in force. -/
def doubleQuotes (mark : Char) : Bool → List Char → List Char
  | _, [] => []
  | escaped, [c] => if c == mark && !escaped then [c, c] else [c]
  | escaped, c :: d :: rest =>
    if c == mark then
      if escaped then c :: doubleQuotes mark true (d :: rest)
      else if d == mark then c :: c :: doubleQuotes mark false rest
      else c :: c :: doubleQuotes mark false (d :: rest)
    else c :: doubleQuotes mark (c == '\\') (d :: rest)

/-- A text between quotes. -/
def inQuotes (mark : Char) (s : String) : String :=
  String.ofList (mark :: (doubleQuotes mark false s.toList ++ [mark]))

namespace Name

/-- An unquoted name. -/
def plain (text : String) : Name := ⟨text, none⟩

def written (n : Name) : String :=
  match n.quote with
  | some mark => inQuotes mark n.text
  | none => n.text

end Name

/-- The parts of a name with points in between. -/
def QualifiedName.written (n : QualifiedName) : String := Text.join "." (n.map Name.written)

/-- The parts of a name without their quotes. -/
def QualifiedName.texts (n : QualifiedName) : List String := n.map (·.text)

/-- Names with commas in between. -/
def writtenNames (names : List Name) : String := Text.join ", " (names.map Name.written)

end Stencil.Sql
