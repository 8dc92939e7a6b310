/-
Lists of pairs in ascending order of their keys, no key twice.

The order is the order in which entries are listed.  Putting an entry walks the
list once and replaces an entry of the same key, so what is found under a key
afterwards does not depend on whether the list was in order before.
-/
namespace Stencil

/-- Pairs of a key and a value. -/
abbrev Keyed (κ α : Type) := List (κ × α)

namespace Keyed

variable {κ α : Type} [DecidableEq κ] [LT κ] [DecidableLT κ]

/-- The value under a key. -/
def find? (key : κ) : Keyed κ α → Option α
  | [] => none
  | (k, v) :: rest => if k = key then some v else find? key rest

/-- The list with a value under a key, in its place. -/
def put (key : κ) (value : α) : Keyed κ α → Keyed κ α
  | [] => [(key, value)]
  | (k, v) :: rest =>
    if key = k then (key, value) :: rest
    else if key < k then (key, value) :: (k, v) :: rest
    else (k, v) :: put key value rest

/-- The list without a key. -/
def remove (key : κ) (entries : Keyed κ α) : Keyed κ α :=
  entries.filter fun e => !decide (e.1 = key)

def keys (entries : Keyed κ α) : List κ := entries.map (·.1)

def values (entries : Keyed κ α) : List α := entries.map (·.2)

end Keyed
end Stencil
