/-
The fragments in force, and what a submission does to them.

A submission is a text of statements.  Its definitions are carried out in order,
each value being expanded with the fragments in force just before it; the other
statements are expanded the same way and joined again.  One illegal definition
makes the whole submission fail, and then no fragment changes.
-/
import Stencil.Error
import Stencil.Fragment.Definition
import Stencil.Fragment.Reference
import Stencil.Fragment.Scan
import Stencil.Keyed
import Stencil.Table.Result
import Stencil.Text.Case

namespace Stencil.Fragment

/-- Named texts, in the order of their names. -/
structure Registry where
  entries : Keyed String String
deriving DecidableEq, Repr

namespace Registry

def empty : Registry := ⟨[]⟩

def get? (r : Registry) (name : String) : Option String := r.entries.find? name

/-- The text of a fragment that has to be there. -/
def get (r : Registry) (name : String) : Except Error String :=
  match r.get? name with
  | some sql => .ok sql
  | none => .error (.unknownFragment name)

def size (r : Registry) : Nat := r.entries.length

def isEmpty (r : Registry) : Bool := r.entries.isEmpty

def insert (r : Registry) (name sql : String) : Registry := ⟨r.entries.put name sql⟩

/-- Puts a fragment in force; neither its name nor its text may be blank. -/
def register (r : Registry) (name sql : String) : Except Error Registry :=
  if Text.isBlankText name then .error .illegalFragmentName
  else if Text.isBlankText sql then .error .illegalFragmentDefinition
  else .ok (r.insert name sql)

/-- Takes a fragment out of force and returns its text. -/
def unregister (r : Registry) (name : String) : Except Error (String × Registry) :=
  match r.get? name with
  | some sql => .ok (sql, ⟨r.entries.remove name⟩)
  | none => .error (.unknownFragment name)

/-- The text with the references to fragments in force replaced. -/
def expand (r : Registry) (text : List Char) : List Char :=
  Fragment.expand (fun name => (r.get? (String.ofList name)).map String.toList) text

/-- A submission in progress: the fragments so far, and the statements that are left. -/
structure Staged where
  registry : Registry
  remaining : List (List Char)

/-- Carries out one statement of a submission. -/
def Staged.take (s : Staged) (statement : List Char) : Except Error Staged :=
  match Definition.read? statement with
  | some d =>
    if d.name.isEmpty then .error .illegalFragmentName
    else if d.value.isEmpty then .error .illegalFragmentDefinition
    else
      let value := String.ofList (s.registry.expand d.value)
      .ok { s with registry := s.registry.insert (String.ofList d.name) value }
  | none => .ok { s with remaining := s.remaining ++ [s.registry.expand statement] }

/-- The statements that are left, joined. -/
def Staged.text (s : Staged) : String :=
  Text.join ";\n" (s.remaining.map String.ofList)

/-- Carries out a submission: the statements left over, and the fragments in force afterwards. -/
def submit (r : Registry) (text : String) : Except Error (String × Registry) :=
  match (Scan.statements text.toList).foldlM Staged.take ⟨r, []⟩ with
  | .ok s => .ok (s.text, s.registry)
  | .error e => .error e

/-! ### Listings -/

def columns : List Column := [⟨"fragmentName", "STRING"⟩, ⟨"fragmentSql", "STRING"⟩]

def rows (r : Registry) : List Row := r.entries.map fun (name, sql) => [.text name, .text sql]

/-- All fragments as a relation. -/
def relation (r : Registry) : Relation := ⟨columns, .rows r.rows⟩

/-- All fragments as the result of a statement. -/
def result (r : Registry) : TableResult := .withRows columns r.rows

end Registry

/-- The command that lists the fragments, in any case and with or without a final semicolon. -/
def isListingCommand (statement : String) : Bool :=
  let cs := Text.trimmed statement.toList
  let cs :=
    match cs.reverse with
    | ';' :: rest => rest.reverse
    | _ => cs
  Text.upper (String.ofList (Text.dropEndBlanks cs)) == "SHOW FRAGMENTS"

end Stencil.Fragment
