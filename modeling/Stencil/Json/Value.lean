/-
JSON documents.

An object keeps its members as written, repetitions included, because a reader
of records refuses a member that comes twice while a reader of documents lets
the last one win.  `canonical` is the second view: one member per name, in the
order of the names.
-/
import Stencil.Decimal.Binary64
import Stencil.Keyed

namespace Stencil

/-- A JSON document.  A number is an integer of 64 bits or else a double. -/
inductive Json where
  | null
  | bool (value : Bool)
  | integer (value : Int)
  | double (value : Decimal.Binary64)
  | string (value : String)
  | array (items : List Json)
  | object (members : List (String × Json))
deriving Repr

namespace Json

mutual

/-- The document with each object's members in the order of their names, the last of a name kept. -/
def canonical : Json → Json
  | array items => array (canonicalItems items)
  | object members => object (canonicalMembers [] members)
  | value => value

/-- The canonical forms of the items of an array. -/
def canonicalItems : List Json → List Json
  | [] => []
  | item :: rest => item.canonical :: canonicalItems rest

/-- Members inserted one by one into those already in order. -/
def canonicalMembers (done : List (String × Json)) :
    List (String × Json) → List (String × Json)
  | [] => done
  | (name, value) :: rest => canonicalMembers (Keyed.put name value.canonical done) rest

end

end Json
end Stencil
