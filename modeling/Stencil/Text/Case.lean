/-
Upper and lower case of a text, by the full mappings of Unicode.

A letter may become several (`ß` is raised to `SS`), and a capital sigma is
lowered to its final form when a cased letter stands before it and none after
it, characters that do not count for case apart.
-/
import Stencil.Text.CaseTable

namespace Stencil.Text

/-- The upper-case form of one character. -/
def upperOf (c : Char) : List Char :=
  if c.toNat < 0x80 then [c.toUpper]
  else
    match upperExpansions.lookup c.toNat with
    | some image => image.map Char.ofNat
    | none =>
      match upperRuns.findSome? (·.map? c.toNat) with
      | some image => [Char.ofNat image]
      | none => [c]

/-- The lower-case form of one character, a capital sigma taken to be inside a word. -/
def lowerOf (c : Char) : List Char :=
  if c.toNat < 0x80 then [c.toLower]
  else if c.toNat == 0x130 then ['i', Char.ofNat 0x307]
  else
    match lowerRuns.findSome? (·.map? c.toNat) with
    | some image => [Char.ofNat image]
    | none => [c]

/-- The first character that counts for case is a cased letter. -/
def meetsCased (cs : List Char) : Bool :=
  match cs.dropWhile caseIgnorable.contains with
  | [] => false
  | c :: _ => cased.contains c

/-- Lower-case forms along a text; `before` holds the characters already passed, nearest first. -/
def lowerFrom (before : List Char) : List Char → List Char
  | [] => []
  | c :: rest =>
    let image :=
      if c == 'Σ' && meetsCased before && !meetsCased rest then ['ς'] else lowerOf c
    image ++ lowerFrom (c :: before) rest

/-- The text in upper case. -/
def upper (s : String) : String := String.ofList (s.toList.flatMap upperOf)

/-- The text in lower case. -/
def lower (s : String) : String := String.ofList (lowerFrom [] s.toList)

/-- A letter of the ASCII alphabet in lower case, any other character as it is. -/
def foldAscii (s : String) : String := String.ofList (s.toList.map Char.toLower)

/-- Equal but for the case of ASCII letters. -/
def sameIgnoringCase (a b : String) : Bool := foldAscii a == foldAscii b

end Stencil.Text
