/-
Lengths and cuts in bytes of UTF-8.

A cursor is given as a number of bytes.  One that points into the middle of a
character stands for the start of that character, and one beyond the end of the
text for its end.
-/
namespace Stencil.Text

/-- The characters that fit into the first `count` bytes. -/
def takeBytes (count : Nat) : List Char → List Char
  | [] => []
  | c :: cs => if c.utf8Size ≤ count then c :: takeBytes (count - c.utf8Size) cs else []

/-- How many bytes a text takes. -/
def byteLength (s : String) : Nat := s.utf8ByteSize

end Stencil.Text
