/-
Objects of a catalog and the paths they are found under.

A path has three parts and is ordered part by part, the catalog first.
-/
import Stencil.Error
import Stencil.Table.Cell

namespace Stencil

/-- Where a table or a view is found. -/
structure ObjectPath where
  catalog : String
  database : String
  name : String
deriving DecidableEq, Repr

namespace ObjectPath

def written (p : ObjectPath) : String := p.catalog ++ "." ++ p.database ++ "." ++ p.name

/-- The parts of a path in the order in which they are compared. -/
def parts (p : ObjectPath) : List String := [p.catalog, p.database, p.name]

instance : LT ObjectPath := ⟨fun p q => p.parts < q.parts⟩

instance : DecidableLT ObjectPath := fun p q => inferInstanceAs (Decidable (p.parts < q.parts))

end ObjectPath

/-- A table with its options, or a view with its query. -/
inductive CatalogObject where
  | table (columns : List Column) (options : List String)
  | view (columns : List Column) (query : String)
deriving DecidableEq, Repr

namespace CatalogObject

def columns : CatalogObject → List Column
  | table columns _ => columns
  | view columns _ => columns

def kind : CatalogObject → ObjectKind
  | table .. => .table
  | view .. => .view

end CatalogObject

/-- What a function takes and yields. -/
inductive FunctionKind where
  | scalar
  | table
  | aggregate
  | tableAggregate
deriving DecidableEq, Repr

namespace FunctionKind

/-- Calls of the kind fold a group of rows. -/
def isAggregate : FunctionKind → Bool
  | aggregate | tableAggregate => true
  | scalar | table => false

/-- The kind in words. -/
def describe : FunctionKind → String
  | scalar => "scalar function"
  | table => "table function"
  | aggregate => "aggregate function"
  | tableAggregate => "table aggregate function"

/-- The name of the kind. -/
def name : FunctionKind → String
  | scalar => "Scalar"
  | table => "Table"
  | aggregate => "Aggregate"
  | tableAggregate => "TableAggregate"

end FunctionKind

/-- A function that a user has registered. -/
structure UserFunction where
  name : String
  kind : FunctionKind
  returnType : String
deriving DecidableEq, Repr

end Stencil
