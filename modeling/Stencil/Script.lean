/-
Scripts: texts of many submissions.

A separator of the user's choice stands between the submissions of a script.
Separator and script are compared with every line end read as a line feed.  What
is left of a piece without blanks at its ends is a submission, unless nothing or
a lone semicolon is left.
-/
import Stencil.Text.Blank
import Stencil.Text.Search

namespace Stencil.Script

/-- A trimmed piece that holds a submission. -/
def isSubmission (piece : List Char) : Bool := !piece.isEmpty && piece != [';']

/-- The trimmed pieces of a script between its separators. -/
def pieces (separator script : String) : List (List Char) :=
  (Text.split (Text.readLineEnds separator.toList) (Text.readLineEnds script.toList)).map
    Text.trimmed

/-- The submissions of a script, in order. -/
def submissions (separator script : String) : List String :=
  ((pieces separator script).filter isSubmission).map String.ofList

end Stencil.Script
