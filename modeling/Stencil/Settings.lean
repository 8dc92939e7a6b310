/-
Settings: how an environment is to work.

Settings come from a file, from variables and from the command line.  Wherever
they come from, the rules are the same: at least one instance of an operator
runs, and the separator of scripts is not blank.
-/
import Stencil.Error
import Stencil.Keyed
import Stencil.Text.Blank

namespace Stencil

/-- How an environment and its engine work. -/
structure Settings where
  /-- Texts go through the fragments. -/
  substituting : Bool
  /-- What stands between the submissions of a script. -/
  separator : String
  /-- How many instances of an operator run at once. -/
  parallelism : Nat
  /-- The catalog of names that give none. -/
  catalog : String
  /-- The database of names that give none. -/
  database : String
  /-- The name of the dialect of SQL. -/
  dialect : String
deriving DecidableEq, Repr

namespace Settings

/-- The settings that hold where nothing else is said. -/
def standard : Settings where
  substituting := true
  separator := ";\n"
  parallelism := 1
  catalog := "default_catalog"
  database := "default_database"
  dialect := "generic"

/-- Parallelism is kept in 32 bits. -/
def parallelismBound : Nat := Nat.pow 2 32

/-- Checks the rules that settings keep. -/
def validate (s : Settings) : Except Error Unit :=
  if s.parallelism = 0 then .error .zeroParallelism
  else if Text.isBlankText s.separator then .error .blankSeparator
  else .ok ()

end Settings

/-- Settings, and the fragments that are in force from the start. -/
structure Configuration where
  settings : Settings
  fragments : Keyed String String
deriving DecidableEq, Repr

/-- The configuration that holds where nothing else is said. -/
def Configuration.standard : Configuration := ⟨.standard, []⟩

end Stencil
