/-
Tables from lines.

A document is a list of lines: headers, headers of array elements, and pairs of a
key and a value.  A pair belongs to the table of the header above it.  Every
table is defined in one place: a header may open a name that is free or was only
implied by longer headers, and a dotted key may add to what dotted keys began.
-/
import Stencil.Toml.Value

namespace Stencil.Toml

/-- A key with points: the names on the way, and the last one. -/
structure Path where
  parents : List String
  name : String
deriving DecidableEq, Repr

/-- A line of a document. -/
inductive Line where
  | header (path : Path)
  | element (path : Path)
  | pair (path : Path) (value : Toml)
deriving Repr

/-- What is done to the table at the end of a way, told of where it comes from. -/
abbrev Change := Origin → Entries → Option Entries

/-- The entries with another value under a name that is there. -/
def replace (name : String) (value : Toml) (entries : Entries) : Entries :=
  entries.map fun entry => if entry.1 == name then (name, value) else entry

/-- Changes the table at the end of a way and makes those on it that are missing; a way of dotted
keys must not lead through a table that has a header. -/
def descend (dotted : Bool) (change : Change) :
    List String → Origin → Entries → Option Entries
  | [], origin, entries => change origin entries
  | name :: way, _, entries =>
    match entries.lookup name with
    | none => do
      let origin := if dotted then .dotted else .implied
      let inner ← descend dotted change way origin []
      return entries ++ [(name, table origin inner)]
    | some (table origin inner) =>
      if origin = .inline || (dotted && origin = .header) then none
      else do
        let inner ← descend dotted change way origin inner
        return replace name (table origin inner) entries
    | some (tables items) => do
      let last ← items.getLast?
      let inner ← descend dotted change way .header last
      return replace name (tables (items.dropLast ++ [inner])) entries
    | some _ => none

/-! ### Pairs -/

/-- Adds an entry under a name that is free. -/
def add (name : String) (value : Toml) (entries : Entries) : Option Entries :=
  match entries.lookup name with
  | none => some (entries ++ [(name, value)])
  | some _ => none

/-- Adds a pair to a table; behind points only a table of dotted keys takes it. -/
def assign (entries : Entries) (pair : Path × Toml) : Option Entries :=
  let (path, value) := pair
  let change : Change := fun origin inner =>
    if path.parents.isEmpty || origin = .dotted then add path.name value inner else none
  descend true change path.parents .header entries

/-- Adds pairs to a table. -/
def assignAll (entries : Entries) (pairs : List (Path × Toml)) : Option Entries :=
  pairs.foldlM assign entries

/-- The table between braces. -/
def inlineTable (pairs : List (Path × Toml)) : Option Toml :=
  (assignAll [] pairs).map (table .inline)

/-! ### Headers -/

/-- The lines under one header. -/
structure Section where
  /-- Whether the header is that of an array element, and what it names; the first lines have
  none. -/
  head : Option (Bool × Path)
  pairs : List (Path × Toml)

/-- The lines by the headers they stand under. -/
def sections (head : Option (Bool × Path)) (pairs : List (Path × Toml)) :
    List Line → List Section
  | [] => [⟨head, pairs.reverse⟩]
  | .pair path value :: rest => sections head ((path, value) :: pairs) rest
  | .header path :: rest => ⟨head, pairs.reverse⟩ :: sections (some (false, path)) [] rest
  | .element path :: rest => ⟨head, pairs.reverse⟩ :: sections (some (true, path)) [] rest

/-- Gives a name its table, in place of one that was only implied. -/
def openTable (name : String) (pairs : List (Path × Toml)) (entries : Entries) :
    Option Entries :=
  match entries.lookup name with
  | none => do return entries ++ [(name, table .header (← assignAll [] pairs))]
  | some (table .implied inner) => do
    return replace name (table .header (← assignAll inner pairs)) entries
  | some _ => none

/-- Adds a table to the array of a name. -/
def openElement (name : String) (pairs : List (Path × Toml)) (entries : Entries) :
    Option Entries :=
  match entries.lookup name with
  | none => do return entries ++ [(name, tables [← assignAll [] pairs])]
  | some (tables items) => do
    return replace name (tables (items ++ [← assignAll [] pairs])) entries
  | some _ => none

/-- Adds a section to a document. -/
def addSection (document : Entries) (s : Section) : Option Entries :=
  match s.head with
  | none => assignAll document s.pairs
  | some (isElement, path) =>
    let change := if isElement then openElement else openTable
    descend false (fun _ => change path.name s.pairs) path.parents .header document

/-- The document of some lines. -/
def ofLines? (lines : List Line) : Option Toml :=
  ((sections none [] lines).foldlM addSection []).map (table .header)

end Stencil.Toml
