/-
Environments set up from a configuration.

The settings are checked before anything else, and the fragments of the
configuration are registered in the order of their names under the same rules
as any other fragment.
-/
import Stencil.Engine.Planning
import Stencil.Environment
import Stencil.Settings
import Stencil.Sql.Dialect

namespace Stencil

/-- Registers named texts one after the other. -/
def Fragment.Registry.registerAll (r : Fragment.Registry) (texts : Keyed String String) :
    Except Error Fragment.Registry :=
  texts.foldlM (fun r (name, sql) => r.register name sql) r

/-- An environment in front of an engine, with the settings and fragments of a configuration. -/
def Environment.configured (engine : σ) (c : Configuration) : Except Error (Environment σ) := do
  c.settings.validate
  let fragments ← Fragment.Registry.empty.registerAll c.fragments
  return ⟨engine, fragments, c.settings.substituting, c.settings.separator⟩

namespace Planning

/-- A planning engine with an empty catalog. -/
def State.new (s : Settings) : State := ⟨.new s.catalog s.database, s.parallelism⟩

/-- A planning engine that works as the settings say. -/
def State.configured (s : Settings) : Except Error State :=
  if !Sql.Dialect.isKnown s.dialect then .error (.unknownDialect s.dialect)
  else if s.parallelism = 0 then .error .zeroParallelism
  else .ok (.new s)

/-- An environment in front of a planning engine. -/
def environment (c : Configuration) : Except Error (Environment State) := do
  Environment.configured (← State.configured c.settings) c

end Planning
end Stencil
