/-
References to fragments inside a text.

A reference is a dollar sign with a name between braces.  The name has at least
one character and no line feed, and it ends at the first closing brace behind its
first character.  A text is read as the sequence of its references and the
characters in between; replacing references works on that sequence, so a text
that is put in is never read again.
-/
namespace Stencil.Fragment

/-- A text, read as references and single characters. -/
inductive Part where
  | plain (c : Char)
  | reference (name : List Char)
deriving DecidableEq, Repr

namespace Part

/-- The rest of a name up to the closing brace. -/
def closing? : List Char → Option (List Char)
  | [] => none
  | c :: rest =>
    if c == '\x7d' then some []
    else if c == '\n' then none
    else (closing? rest).map (c :: ·)

/-- The name at the front of a text, if the text begins with a reference. -/
def name? : List Char → Option (List Char)
  | '$' :: '\x7b' :: c :: rest => if c == '\n' then none else (closing? rest).map (c :: ·)
  | _ => none

/-- The parts of a text of which the first `skip` characters belong to a reference. -/
def readFrom (skip : Nat) : List Char → List Part
  | [] => []
  | c :: rest =>
    match skip with
    | skip + 1 => readFrom skip rest
    | 0 =>
      match name? (c :: rest) with
      | some name => reference name :: readFrom (name.length + 2) rest
      | none => plain c :: readFrom 0 rest

/-- The parts of a text. -/
def read (text : List Char) : List Part := readFrom 0 text

/-- A part as it was written. -/
def written : Part → List Char
  | plain c => [c]
  | reference name => ['$', '\x7b'] ++ name ++ ['\x7d']

/-- A part with a reference replaced, if its name is defined. -/
def image (value? : List Char → Option (List Char)) : Part → List Char
  | plain c => [c]
  | reference name => (value? name).getD (written (reference name))

end Part

/-- The text with each defined reference replaced by its value. -/
def expand (value? : List Char → Option (List Char)) (text : List Char) : List Char :=
  (Part.read text).flatMap (Part.image value?)

end Stencil.Fragment
