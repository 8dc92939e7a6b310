/-
TOML documents.

A table remembers where it comes from, because that decides whether a later line
may still add to it.  The tables of an array that was written with headers are
kept apart from an ordinary array for the same reason.
-/
import Stencil.Decimal.Binary64

namespace Stencil

/-- Where a table comes from. -/
inductive Toml.Origin where
  /-- A header of its own; the document itself counts as one. -/
  | header
  /-- A longer header in which its name occurs. -/
  | implied
  /-- A key with a point in it. -/
  | dotted
  /-- Braces around its content. -/
  | inline
deriving DecidableEq, Repr

/-- A value of a document. -/
inductive Toml where
  | string (value : String)
  | integer (value : Int)
  | double (value : Decimal.Binary64)
  | bool (value : Bool)
  /-- A date, a time, or both, in writing. -/
  | moment (text : String)
  | array (items : List Toml)
  | table (origin : Toml.Origin) (entries : List (String × Toml))
  /-- An array of tables that have headers. -/
  | tables (items : List (List (String × Toml)))
deriving Repr

namespace Toml

/-- What a table holds, in the order of writing. -/
abbrev Entries := List (String × Toml)

/-! ### Views of a value -/

def string? : Toml → Option String
  | string s => some s
  | _ => none

def bool? : Toml → Option Bool
  | bool b => some b
  | _ => none

/-- A natural number below a bound. -/
def natBelow? (bound : Nat) : Toml → Option Nat
  | integer i => if 0 ≤ i && i < bound then some i.toNat else none
  | _ => none

/-- The name under which a date or a time is kept where a table is asked for. -/
def momentKey : String := "$__toml_private_datetime"

/-- The content of a table; a date or a time counts as a table with one entry. -/
def entries? : Toml → Option Entries
  | table _ entries => some entries
  | moment text => some [(momentKey, string text)]
  | _ => none

/-- The items of an array, however it was written. -/
def items? : Toml → Option (List Toml)
  | array items => some items
  | tables items => some (items.map (table .header))
  | _ => none

/-- The fields of a record: entries of a table by name, or items of an array in order. -/
def fields? (names : List String) (v : Toml) : Option (List (Option Toml)) :=
  match v.entries? with
  | some entries => some (names.map fun name => entries.lookup name)
  | none => v.items?.map fun items =>
      ((items.map some).take names.length) ++ List.replicate (names.length - items.length) none

end Toml
end Stencil
