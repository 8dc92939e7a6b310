/-
What expressions refer to, and of what type they are.

References are checked where they stand directly in an expression: under
operators and parentheses, and in tests for absent values.  Names and qualifiers
are compared without regard to the case of ASCII letters.
-/
import Stencil.Plan.Node
import Stencil.Sql.Written
import Stencil.Text.Case

namespace Stencil.Plan

open Sql

/-! ### Fields -/

/-- The field is visible under the qualifier. -/
def isUnder (qualifier : String) (f : Field) : Bool :=
  f.qualifier.any (Text.sameIgnoringCase · qualifier)

/-- The fields that a reference may mean. -/
def candidates (fields : List Field) (qualifier : Option String) (name : String) : List Field :=
  fields.filter fun f =>
    Text.sameIgnoringCase f.name name
      && (match qualifier with
        | some q => isUnder q f
        | none => true)

/-- A reference as messages show it. -/
def writtenReference (qualifier : Option String) (name : String) : String :=
  match qualifier with
  | some q => q ++ "." ++ name
  | none => name

/-- The only field that a reference may mean. -/
def findField (fields : List Field) (qualifier : Option String) (name : String) :
    Except Error Field :=
  match candidates fields qualifier name with
  | [f] => .ok f
  | [] => .error (.unknownColumn (writtenReference qualifier name))
  | _ => .error (.ambiguousColumn (writtenReference qualifier name))

/-- Every reference that stands directly in an expression means one field. -/
def checkReferences (fields : List Field) : Expr → Except Error Unit
  | .name n => (findField fields none n.text).map fun _ => ()
  | .qualified [q, n] => (findField fields (some q.text) n.text).map fun _ => ()
  | .infixed left _ right => do
    checkReferences fields left
    checkReferences fields right
  | .unary _ operand => checkReferences fields operand
  | .nested inner => checkReferences fields inner
  | .isNull operand => checkReferences fields operand
  | .isNotNull operand => checkReferences fields operand
  | _ => .ok ()

/-! ### Types -/

/-- The type of what cannot be told. -/
def unknownType : String := "UNKNOWN"

/-- The type of the field that a reference means. -/
def typeOfReference (fields : List Field) (qualifier : Option String) (name : String) : String :=
  match findField fields qualifier name with
  | .ok f => f.dataType
  | .error _ => unknownType

/-- The type of a constant. -/
def typeOfLiteral : Literal → String
  | .number digits _ => if digits.toList.contains '.' then "DECIMAL" else "INT"
  | .text _ => "STRING"
  | .boolean _ => "BOOLEAN"
  | .null => "NULL"
  | .verbatim _ => unknownType

/-- The type of an expression over the fields. -/
def typeOf (fields : List Field) : Expr → String
  | .name n => typeOfReference fields none n.text
  | .qualified [q, n] => typeOfReference fields (some q.text) n.text
  | .literal value => typeOfLiteral value
  | .call function _ _ =>
    if Text.sameIgnoringCase (QualifiedName.written function) "COUNT" then "BIGINT"
    else unknownType
  | .nested inner => typeOf fields inner
  | _ => unknownType

/-! ### Functions -/

/-- The functions that fold groups of rows unless a user has registered them otherwise. -/
def aggregates : List String :=
  ["COUNT", "SUM", "AVG", "MIN", "MAX", "COLLECT", "LISTAGG", "FIRST_VALUE", "LAST_VALUE"]

end Stencil.Plan
