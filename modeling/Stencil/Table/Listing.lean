/-
A result as an aligned listing.

Every column is as wide as its longest text, where the length of a text is
counted in bytes of UTF-8 and the blanks that fill a cell are counted in
characters.  A row may have more cells than there are columns, and the surplus
is left out; it may have fewer, and then its line is shorter.
-/
import Stencil.Text.Bytes
import Stencil.Text.Search
import Stencil.Table.Result

namespace Stencil.TableResult

/-- The widths after a row: a cell widens the column it stands in. -/
def widen : List Nat → List String → List Nat
  | [], _ => []
  | widths, [] => widths
  | w :: widths, cell :: cells => max w (Text.byteLength cell) :: widen widths cells

/-- The texts of the rows. -/
def displayed (r : TableResult) : List (List String) := r.rows.map (·.map Cell.display)

/-- The width of each column. -/
def widths (r : TableResult) : List Nat :=
  r.displayed.foldl widen (r.columnNames.map Text.byteLength)

/-- The text filled up with blanks to a number of characters. -/
def pad (width : Nat) (s : String) : String :=
  String.ofList (s.toList ++ List.replicate (width - s.length) ' ')

/-- The line between header, rows and end. -/
def border (widths : List Nat) : String :=
  "+" ++ Text.join "+" (widths.map fun w => String.ofList (List.replicate (w + 2) '-')) ++ "+"

/-- The line of a row. -/
def line (widths : List Nat) (cells : List String) : String :=
  "|" ++ Text.join "|" (List.zipWith (fun cell w => " " ++ pad w cell ++ " ") cells widths) ++ "|"

/-- The lines of the listing. -/
def lines (r : TableResult) : List String :=
  [border r.widths, line r.widths r.columnNames, border r.widths]
    ++ r.displayed.map (line r.widths)
    ++ [border r.widths, toString r.rows.length ++ " row(s) in set"]

/-- The listing. -/
def listing (r : TableResult) : String := Text.join "\n" r.lines

end Stencil.TableResult
