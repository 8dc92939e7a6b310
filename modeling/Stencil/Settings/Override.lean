/-
Settings overridden by variables.

A variable that is present replaces a setting, the parallelism first and the
switch for fragments second.  Blanks around a value do not matter.  If the second
value is refused, the first one has already taken effect.
-/
import Stencil.Decimal.Natural
import Stencil.Run
import Stencil.Settings
import Stencil.Text.Case

namespace Stencil.Settings

/-- The values of the variables that are present. -/
abbrev Variables := String → Option String

/-- The variable for the parallelism. -/
def parallelismVariable : String := "FRAGSQL_PARALLELISM"

/-- The variable that switches fragments on and off. -/
def switchVariable : String := "FRAGSQL_USE_SQL_FRAGMENT"

/-- The words that switch something on or off, in any case. -/
def readSwitch? (value : String) : Option Bool :=
  match Text.lower (Text.trim value) with
  | "1" | "true" | "yes" | "on" => some true
  | "0" | "false" | "no" | "off" => some false
  | _ => none

/-- The parallelism that a value stands for. -/
def readParallelism? (value : String) : Option Nat :=
  Decimal.readNatural? parallelismBound (Text.trimmed value.toList)

/-- Sets the parallelism to a value. -/
def overrideParallelism (value : String) : Run Settings Unit :=
  Run.change fun s =>
    match readParallelism? value with
    | some parallelism => .ok ((), { s with parallelism })
    | none => .error (.badParallelism value)

/-- Switches fragments on or off as a value says. -/
def overrideSwitch (value : String) : Run Settings Unit :=
  Run.change fun s =>
    match readSwitch? value with
    | some substituting => .ok ((), { s with substituting })
    | none => .error (.badSwitch value)

/-- Replaces a setting if there is a value for it. -/
def overrideIf (set : String → Run Settings Unit) : Option String → Run Settings Unit
  | some value => set value
  | none => pure ()

/-- Replaces what the variables give values for. -/
def override (values : Variables) : Run Settings Unit := do
  overrideIf overrideParallelism (values parallelismVariable)
  overrideIf overrideSwitch (values switchVariable)

end Stencil.Settings
