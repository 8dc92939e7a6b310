/-
Columns and cells.

A cell is what stands in one column of one row.  Its text is what listings show;
an absent value shows as `NULL`.
-/
import Stencil.Decimal.Shortest

namespace Stencil

/-- A column of a table: its name and the name of its type. -/
structure Column where
  name : String
  dataType : String
deriving DecidableEq, Repr, Inhabited

/-- One value of a row. -/
inductive Cell where
  | null
  | bool (value : Bool)
  | integer (value : Int)
  | double (value : Decimal.Binary64)
  | text (value : String)
deriving DecidableEq, Repr

/-- The cells of a row, one per column. -/
abbrev Row := List Cell

namespace Cell

/-- The text a listing shows. -/
def display : Cell → String
  | null => "NULL"
  | bool b => if b then "true" else "false"
  | integer i => toString i
  | double x => x.text
  | text s => s

def isNull : Cell → Bool
  | null => true
  | _ => false

end Cell
end Stencil
