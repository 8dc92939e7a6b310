/-
The files that a command may read.

A directory holds texts under relative paths.  A path leads through it name by
name; a dot stays where it is, two dots lead back, and a name can only be looked
up in a directory.  Nothing is known of what lies outside.
-/
import Stencil.Text.Search

namespace Stencil.Command

/-- Why a path yields no text. -/
inductive ReadFault where
  | missing
  | notADirectory
  | isDirectory
  | notText
deriving DecidableEq, Repr

/-- The fault in words. -/
def ReadFault.message : ReadFault → String
  | missing => "No such file or directory (os error 2)"
  | notADirectory => "Not a directory (os error 20)"
  | isDirectory => "Is a directory (os error 21)"
  | notText => "stream did not contain valid UTF-8"

/-- What a path leads to. -/
abbrev Files := String → Except ReadFault String

namespace Directory

/-- The names in a path. -/
def names (path : String) : List String :=
  (Text.split ['/'] path.toList).map String.ofList

/-- Where a path has led so far: up to `above` levels outside, or to names inside. -/
structure Place where
  above : Nat
  inside : List String
deriving DecidableEq, Repr

/-- A file of the directory. -/
abbrev File := List String × String

/-- The text at a place, if there is a file. -/
def fileAt? (files : List File) (p : Place) : Option String :=
  if p.above = 0 then files.lookup p.inside else none

/-- There is a directory at a place. -/
def isDirectory (files : List File) (p : Place) : Bool :=
  p.inside.isEmpty || (p.above == 0 && files.any fun f => p.inside.isPrefixOf f.1)

/-- One step up. -/
def Place.up (p : Place) : Place :=
  if p.inside.isEmpty then { p with above := p.above + 1 }
  else { p with inside := p.inside.dropLast }

/-- Follows one name of a path. -/
def follow (files : List File) (p : Place) (name : String) : Except ReadFault Place :=
  if (fileAt? files p).isSome then .error .notADirectory
  else if !isDirectory files p then .error .missing
  else if name.isEmpty || name == "." then .ok p
  else if name == ".." then .ok p.up
  else .ok { p with inside := p.inside ++ [name] }

/-- Reads the file that a path leads to from inside the directory. -/
def read (files : List (String × String)) : Files := fun path => do
  let files := files.map fun (path, text) => (names path, text)
  if path.isEmpty || path.startsWith "/" then throw .missing
  let p ← (names path).foldlM (follow files) ⟨0, []⟩
  match fileAt? files p with
  | some text => return text
  | none => throw (if isDirectory files p then .isDirectory else .missing)

end Directory
end Stencil.Command
