/-
Settings from a document.

Everything may be left out, and names that mean nothing are passed over, but what
is there has to be of the right type.  Settings may also be an array of values in
the order of their names.  The rules for settings are checked at the end.
-/
import Stencil.Settings
import Stencil.Toml.Reader

namespace Stencil

/-- The value of a field, or its default if it is left out. -/
def Toml.fieldOr (read : Toml → Option α) (default : α) : Option Toml → Option α
  | none => some default
  | some value => read value

namespace Settings

/-- The names of the settings. -/
def names : List String :=
  ["use_sql_fragment", "statement_separator", "parallelism", "default_catalog",
   "default_database", "dialect"]

/-- The settings that a value holds. -/
def ofToml? (value : Toml) : Option Settings := do
  match ← value.fields? names with
  | [substituting, separator, parallelism, catalog, database, dialect] =>
    let substituting ← Toml.fieldOr Toml.bool? standard.substituting substituting
    let separator ← Toml.fieldOr Toml.string? standard.separator separator
    let parallelism ←
      Toml.fieldOr (Toml.natBelow? parallelismBound) standard.parallelism parallelism
    let catalog ← Toml.fieldOr Toml.string? standard.catalog catalog
    let database ← Toml.fieldOr Toml.string? standard.database database
    let dialect ← Toml.fieldOr Toml.string? standard.dialect dialect
    return { substituting, separator, parallelism, catalog, database, dialect }
  | _ => none

end Settings

namespace Configuration

/-- The named texts that a value holds, in the order of their names. -/
def fragmentsOfToml? (value : Toml) : Option (Keyed String String) := do
  (← value.entries?).foldlM (fun done (name, v) => do return done.put name (← v.string?)) []

/-- The configuration that a value holds. -/
def ofToml? (value : Toml) : Option Configuration := do
  match ← value.fields? ["environment", "fragments"] with
  | [settings, fragments] =>
    return ⟨← Toml.fieldOr Settings.ofToml? .standard settings,
      ← Toml.fieldOr fragmentsOfToml? [] fragments⟩
  | _ => none

/-- The configuration in a text that stands under a path. -/
def read (path text : String) : Except Error Configuration :=
  match (Toml.read? text).bind ofToml? with
  | some c => do
    c.settings.validate
    return c
  | none => .error (.malformedSettings path)

end Configuration
end Stencil
