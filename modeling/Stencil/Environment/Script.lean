/-
Running and explaining scripts.

A script is run until the first failure.  When it is explained, every submission
is reported on, whether it fails or not, and definitions take effect after they
have been explained so that later statements can refer to them.
-/
import Stencil.Environment
import Stencil.Script

namespace Stencil.Environment

variable {σ : Type}

/-- The submissions of a script. -/
def submissions (env : Environment σ) (script : String) : List String :=
  Script.submissions env.separator script

/-- Lets a definition that has been reported on take effect. -/
def settle (engine : Engine σ) (r : Report) : StateM (Environment σ) Report := do
  if r.kind = some .definition then
    match ← (execute engine r.sql).run with
    | .ok _ => return r
    | .error e => return r.withoutEffect e
  else return r

/-- Reports on a submission of a script, which never fails. -/
def reportOn (engine : Engine σ) (details : List Plan.Detail) (sql : String) :
    StateM (Environment σ) Report := do
  match ← (report engine sql details).run with
  | .ok r => settle engine r
  | .error e => return .failed sql e (e.category != .parse)

/-- Reports on submissions of which the first stands at `index`. -/
def reportFrom (engine : Engine σ) (details : List Plan.Detail) (index : Nat) :
    List String → StateM (Environment σ) (List Report)
  | [] => return []
  | sql :: rest => do
    let r ← reportOn engine details sql
    return r.numbered index :: (← reportFrom engine details (index + 1) rest)

/-- Reports on every submission of a script. -/
def explainScript (engine : Engine σ) (script : String) (details : List Plan.Detail) :
    StateM (Environment σ) (List Report) := do
  reportFrom engine details 1 ((← get).submissions script)

/-- Runs submissions one after the other up to the first failure. -/
def executeAll (engine : Engine σ) : List String → Run (Environment σ) (List TableResult)
  | [] => return []
  | sql :: rest => do
    let result ← execute engine sql
    return result :: (← executeAll engine rest)

/-- Runs the submissions of a script up to the first failure. -/
def executeScript (engine : Engine σ) (script : String) :
    Run (Environment σ) (List TableResult) := do
  executeAll engine ((← get).submissions script)

end Stencil.Environment
