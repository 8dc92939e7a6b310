/-
Blank characters, and what is done at the edges of a text.

A character is blank when it has the Unicode property White_Space.  Trimming
drops blanks from an end, and the words of a text are its longest runs without
blanks.
-/
namespace Stencil.Text

/-- The property White_Space. -/
def isBlank (c : Char) : Bool :=
  let n := c.toNat
  (0x9 ≤ n && n ≤ 0xD) || n == 0x20 || n == 0x85 || n == 0xA0 || n == 0x1680
    || (0x2000 ≤ n && n ≤ 0x200A) || n == 0x2028 || n == 0x2029 || n == 0x202F
    || n == 0x205F || n == 0x3000

/-- The text without the blanks in front. -/
def dropBlanks (cs : List Char) : List Char := cs.dropWhile isBlank

/-- The text without the blanks at the end. -/
def dropEndBlanks (cs : List Char) : List Char := (cs.reverse.dropWhile isBlank).reverse

/-- The text without the blanks at both ends. -/
def trimmed (cs : List Char) : List Char := dropEndBlanks (dropBlanks cs)

/-- The text without the blanks at both ends. -/
def trim (s : String) : String := String.ofList (trimmed s.toList)

/-- No character but blanks. -/
def isBlankText (s : String) : Bool := s.toList.all isBlank

/-- The words of a text; `word` collects the current one backwards. -/
def wordsFrom (word : List Char) : List Char → List (List Char)
  | [] => if word.isEmpty then [] else [word.reverse]
  | c :: rest =>
    if isBlank c then
      if word.isEmpty then wordsFrom [] rest else word.reverse :: wordsFrom [] rest
    else wordsFrom (c :: word) rest

/-- The longest runs without blanks, in order. -/
def words (s : String) : List String := (wordsFrom [] s.toList).map String.ofList

end Stencil.Text
