/-
Finding one text inside another.

All functions read from left to right and take the leftmost occurrence; the
search goes on behind an occurrence, so occurrences never overlap.  A walk over
the text counts in `skip` the characters of an occurrence it is still inside of.
-/
namespace Stencil.Text

/-- What follows `start` at the front of the text, if the text begins with it. -/
def after? : List Char → List Char → Option (List Char)
  | [], cs => some cs
  | _ :: _, [] => none
  | s :: start, c :: cs => if s == c then after? start cs else none

/-- What follows the first occurrence of `mark`, if there is one. -/
def behind? (mark : List Char) : List Char → Option (List Char)
  | [] => after? mark []
  | c :: cs =>
    match after? mark (c :: cs) with
    | some rest => some rest
    | none => behind? mark cs

/-- The pieces between the occurrences of `mark`; `piece` holds the current one backwards. -/
def splitFrom (mark : List Char) (piece : List Char) (skip : Nat) : List Char → List (List Char)
  | [] => [piece.reverse]
  | c :: cs =>
    match skip with
    | skip + 1 => splitFrom mark piece skip cs
    | 0 =>
      if mark.isPrefixOf (c :: cs) then piece.reverse :: splitFrom mark [] (mark.length - 1) cs
      else splitFrom mark (c :: piece) 0 cs

/-- The pieces of a text between the occurrences of a mark. -/
def split (mark text : List Char) : List (List Char) := splitFrom mark [] 0 text

/-- The text with each occurrence of `mark` replaced. -/
def replaceFrom (mark image : List Char) (skip : Nat) : List Char → List Char
  | [] => []
  | c :: cs =>
    match skip with
    | skip + 1 => replaceFrom mark image skip cs
    | 0 =>
      if mark.isPrefixOf (c :: cs) then image ++ replaceFrom mark image (mark.length - 1) cs
      else c :: replaceFrom mark image 0 cs

/-- The text with each pair of carriage return and line feed read as a line feed. -/
def readLineEnds (text : List Char) : List Char := replaceFrom ['\r', '\n'] ['\n'] 0 text

/-- The texts one after the other with `mark` in between. -/
def join (mark : String) (texts : List String) : String := mark.intercalate texts

end Stencil.Text
