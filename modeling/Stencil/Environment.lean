/-
Environments: an engine with fragments in front of it.

Every text goes through the fragments first.  What a submission leaves over is
given to the engine, with two exceptions: a submission that only defines
fragments leaves nothing, and the command that lists the fragments is answered
from the fragments themselves where a listing makes sense.  With fragments
switched off, every text reaches the engine as it is.
-/
import Stencil.Fragment.Registry
import Stencil.Json.Reader
import Stencil.Report

namespace Stencil

/-- The state of an engine and the fragments in front of it. -/
structure Environment (σ : Type) where
  engine : σ
  fragments : Fragment.Registry
  /-- Texts go through the fragments. -/
  substituting : Bool
  /-- What stands between the submissions of a script. -/
  separator : String

/-- What a submission leaves over once the fragments are through with it. -/
inductive Remainder where
  /-- Nothing: the submission only defined fragments. -/
  | definitions
  /-- The command that lists the fragments, as it was written. -/
  | listing (text : String)
  | statement (text : String)
deriving DecidableEq, Repr

namespace Environment

variable {σ : Type}

/-- An environment without fragments, in which they are switched on. -/
def new (engine : σ) : Environment σ := ⟨engine, .empty, true, ";\n"⟩

/-! ### Fragments first -/

/-- What a text left over by the fragments is. -/
def remainder (text : String) : Remainder :=
  if text.isEmpty then .definitions
  else if Fragment.isListingCommand text then .listing text
  else .statement text

/-- Submits a text to the fragments, if they are switched on. -/
def submit (text : String) : Run (Environment σ) Remainder :=
  Run.change fun env =>
    if env.substituting then
      (env.fragments.submit text).map fun (left, fragments) =>
        (remainder left, { env with fragments })
    else .ok (.statement text, env)

/-- A computation on the state of the engine. -/
def onEngine (r : Run σ α) : Run (Environment σ) α :=
  Run.within Environment.engine (fun engine env => { env with engine }) r

/-! ### One statement -/

/-- Explains a statement as text. -/
def explain (engine : Engine σ) (text : String) (details : List Plan.Detail) :
    Run (Environment σ) String := do
  match ← submit text with
  | .definitions => return "This is a sql fragment."
  | .listing _ => throw .listingNotExplainable
  | .statement sql => onEngine (engine.explainText sql details)

/-- Reports on a statement under the text it was submitted as. -/
def report (engine : Engine σ) (text : String) (details : List Plan.Detail) :
    Run (Environment σ) Report := do
  match ← submit text with
  | .definitions => return .ofDefinitions text
  | .listing _ => throw .listingNotExplainable
  | .statement sql =>
    onEngine do Report.ofOperations engine text details (← engine.parse sql)

/-- The document of a text; a text that is none counts as the empty document. -/
def document (text : String) : Json := ((Json.read? text).map Json.canonical).getD (.object [])

/-- The graph of the only one of some operations, which has to write. -/
def graphOf (engine : Engine σ) : List engine.Operation → Run σ Json
  | [op] => do
    if engine.kind op ≠ .modify then throw (.noGraph (engine.summary op))
    match ← engine.graph (← engine.translate [op]) with
    | some text => return document text
    | none => throw .graphsUnavailable
  | _ => throw .notSingleQuery

/-- The graph of a statement that writes. -/
def graph (engine : Engine σ) (text : String) : Run (Environment σ) Json := do
  match ← submit text with
  | .definitions => throw .fragmentHasNoGraph
  | .listing _ => throw .listingNotExplainable
  | .statement sql => onEngine do graphOf engine (← engine.parse sql)

/-- What the word that ends at a position may go on to. -/
def hints (engine : Engine σ) (text : String) (position : Nat) :
    Run (Environment σ) (List String) := do
  match ← submit text with
  | .definitions => return []
  | .listing sql | .statement sql => onEngine (engine.hints sql position)

/-- The relation that a query stands for; the listing of fragments is one too. -/
def query (engine : Engine σ) (text : String) : Run (Environment σ) Relation := do
  match ← submit text with
  | .definitions => throw .fragmentIsNoQuery
  | .listing _ => Run.read fun env => .ok env.fragments.relation
  | .statement sql => onEngine (engine.query sql)

/-- Runs a statement. -/
def execute (engine : Engine σ) (text : String) : Run (Environment σ) TableResult := do
  match ← submit text with
  | .definitions => return .ok
  | .listing _ => Run.read fun env => .ok env.fragments.result
  | .statement sql => onEngine (engine.execute sql)

/-- Runs a statement that must not be a query. -/
def update (engine : Engine σ) (text : String) : Run (Environment σ) Unit := do
  match ← submit text with
  | .definitions => throw .fragmentIsNoUpdate
  | .listing sql | .statement sql => onEngine (engine.update sql)

end Environment
end Stencil
