/-
Records in JSON.

A record is an object with a member per field, or an array of the fields in
order.  Members of other names are passed over; a field that comes twice, or an
item beyond the last field, makes the record unreadable.
-/
import Stencil.Json.Value

namespace Stencil.Json

/-- The values under a name. -/
def under (name : String) (members : List (String × Json)) : List Json :=
  members.filterMap fun (n, value) => if n == name then some value else none

/-- The fields of a record in the order of their names; a missing one is `none`. -/
def fields? (names : List String) : Json → Option (List (Option Json))
  | object members =>
    names.mapM fun name =>
      match under name members with
      | [] => some none
      | [value] => some (some value)
      | _ => none
  | array items =>
    if items.length ≤ names.length then
      some (items.map some ++ List.replicate (names.length - items.length) none)
    else none
  | _ => none

def string? : Json → Option String
  | string s => some s
  | _ => none

def bool? : Json → Option Bool
  | bool b => some b
  | _ => none

/-- A natural number below a bound. -/
def natBelow? (bound : Nat) : Json → Option Nat
  | integer i => if 0 ≤ i && i < bound then some i.toNat else none
  | _ => none

def array? : Json → Option (List Json)
  | array items => some items
  | _ => none

/-- The name of an alternative without content: a string, or an object that holds nothing else. -/
def alternative? : Json → Option String
  | string s => some s
  | object [(name, null)] => some name
  | _ => none

end Stencil.Json
