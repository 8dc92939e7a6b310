/-
The catalog: tables and views under their paths, and functions by name.

Shorter names are completed with a default catalog and a default database.  The
names of functions are compared in upper case; an operation that fails returns
no catalog, so the one before it stays in force.
-/
import Stencil.Catalog.Object
import Stencil.Keyed
import Stencil.Text.Blank
import Stencil.Text.Case

namespace Stencil

/-- Tables, views and functions. -/
structure Catalog where
  defaultCatalog : String
  defaultDatabase : String
  objects : Keyed ObjectPath CatalogObject
  functions : Keyed String UserFunction
deriving DecidableEq, Repr

namespace Catalog

/-- A catalog without objects. -/
def new (defaultCatalog defaultDatabase : String) : Catalog :=
  ⟨defaultCatalog, defaultDatabase, [], []⟩

/-! ### Names -/

/-- The path that a name of one to three parts stands for. -/
def qualify (c : Catalog) : List String → Except Error ObjectPath
  | [name] => .ok ⟨c.defaultCatalog, c.defaultDatabase, name⟩
  | [database, name] => .ok ⟨c.defaultCatalog, database, name⟩
  | [catalog, database, name] => .ok ⟨catalog, database, name⟩
  | parts => .error (.invalidIdentifier parts)

/-! ### Objects -/

def get? (c : Catalog) (path : ObjectPath) : Option CatalogObject := c.objects.find? path

/-- The object under a path that has to be there. -/
def resolve (c : Catalog) (path : ObjectPath) : Except Error CatalogObject :=
  match c.get? path with
  | some object => .ok object
  | none => .error (.unknownObject path.name)

/-- Puts a new object under a path; `false` if one is there already and that is no failure. -/
def create (c : Catalog) (path : ObjectPath) (object : CatalogObject) (ifNotExists : Bool) :
    Except Error (Bool × Catalog) :=
  match c.get? path with
  | some existing =>
    if ifNotExists then .ok (false, c)
    else .error (.alreadyExists existing.kind path.written)
  | none => .ok (true, { c with objects := c.objects.put path object })

/-- Removes an object of the given kind; `false` if nothing is there and that is no failure. -/
def drop (c : Catalog) (path : ObjectPath) (kind : ObjectKind) (ifExists : Bool) :
    Except Error (Bool × Catalog) :=
  match c.get? path with
  | some existing =>
    if existing.kind = kind then .ok (true, { c with objects := c.objects.remove path })
    else .error (.wrongKind path.written existing.kind kind)
  | none => if ifExists then .ok (false, c) else .error (.doesNotExist kind path.written)

/-- The objects of the default database with their names, in order. -/
def defaultObjects (c : Catalog) : List (String × CatalogObject) :=
  c.objects.filterMap fun (path, object) =>
    if path.catalog == c.defaultCatalog && path.database == c.defaultDatabase then
      some (path.name, object)
    else none

/-- The names of the objects of the default database, in order. -/
def objectNames (c : Catalog) : List String := c.defaultObjects.map (·.1)

/-! ### Functions -/

/-- Registers a function in place of any other of that name. -/
def registerFunction (c : Catalog) (f : UserFunction) : Except Error Catalog :=
  if Text.isBlankText f.name then .error .emptyFunctionName
  else .ok { c with functions := c.functions.put (Text.upper f.name) f }

/-- The function of a name, in any case. -/
def function? (c : Catalog) (name : String) : Option UserFunction :=
  c.functions.find? (Text.upper name)

/-- The names of the functions as they were registered. -/
def functionNames (c : Catalog) : List String := c.functions.values.map (·.name)

end Catalog
end Stencil
