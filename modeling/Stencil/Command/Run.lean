/-
Carrying out a request.

The configuration is read first, then the variables and the command line have
their say, in this order.  A command prints its output only when all of it has
succeeded.
-/
import Stencil.Command.Directory
import Stencil.Command.Request
import Stencil.Environment.Script
import Stencil.Json.Printer
import Stencil.Settings.Document
import Stencil.Settings.Override
import Stencil.Settings.Setup
import Stencil.Table.Listing
import Stencil.Text.Bytes

namespace Stencil.Command

/-- What a command finds around it. -/
structure Surroundings where
  files : Files
  /-- The text on standard input. -/
  input : Except ReadFault String
  values : Settings.Variables
  /-- Where settings are looked for if no path is given. -/
  settingsPath : String

/-- Why a request fails. -/
inductive Failure where
  | error (e : Error)
  /-- A script cannot be read; nothing names standard input. -/
  | unreadableScript (path : Option String) (fault : ReadFault)
  | emptyScript (path : String)
deriving DecidableEq, Repr

/-- The failure in words. -/
def Failure.message : Failure → String
  | error e => e.category.name ++ ": " ++ e.message
  | unreadableScript (some path) fault =>
    "Failed to read script '" ++ path ++ "': " ++ fault.message
  | unreadableScript none fault => "Failed to read script from stdin: " ++ fault.message
  | emptyScript path => "Script '" ++ path ++ "' contains no statements"

/-- The lines that a command prints, or why it fails. -/
abbrev Output := Except Failure (List String)

/-- An error of the library ends a command. -/
def orFail : Except Error α → Except Failure α
  | .ok a => .ok a
  | .error e => .error (.error e)

/-! ### What is read -/

/-- The configuration under a path; nothing there stands for the standard one. -/
def loadConfiguration (files : Files) (path : String) : Except Error Configuration :=
  match files path with
  | .ok text => Configuration.read path text
  | .error .missing | .error .notADirectory => .ok .standard
  | .error fault => .error (.unreadableSettings fault.message)

/-- The configuration that a request works with. -/
def configuration (w : Surroundings) (r : Request) : Except Error Configuration := do
  let c ← loadConfiguration w.files (r.config.getD w.settingsPath)
  let (result, settings) := (Settings.override w.values).run.run c.settings
  result
  return { c with settings := r.apply settings }

/-- The path that stands for standard input. -/
def standardInput : String := "-"

/-- The script that a request names. -/
def readScript (w : Surroundings) (path : String) : Except Failure String :=
  if path == standardInput then w.input.mapError (.unreadableScript none)
  else (w.files path).mapError (.unreadableScript (some path))

/-! ### What is done -/

/-- A computation on an environment, and what it leaves behind. -/
def runOn (env : Environment σ) (r : Run (Environment σ) α) :
    Except Failure (α × Environment σ) :=
  match r.run.run env with
  | (.ok a, env) => .ok (a, env)
  | (.error e, _) => .error (.error e)

/-- Runs a script and draws the graph of its last statement. -/
def drawGraph (engine : Engine σ) (env : Environment σ) (path script : String) : Output :=
  let statements := env.submissions script
  match statements.getLast? with
  | none => .error (.emptyScript path)
  | some last => do
    let (_, env) ← runOn env (Environment.executeAll engine statements.dropLast)
    let (graph, _) ← runOn env (Environment.graph engine last)
    return [graph.pretty]

/-- Carries out a task in an environment. -/
def perform (engine : Engine σ) (w : Surroundings) (env : Environment σ) : Task → Output
  | .explain path details => do
    let script ← readScript w path
    let (reports, _) := (Environment.explainScript engine script details).run env
    return [(Json.array (reports.map Report.json)).pretty]
  | .graph path => do drawGraph engine env path (← readScript w path)
  | .execute path => do
    let script ← readScript w path
    let (results, _) ← runOn env (Environment.executeScript engine script)
    return results.map TableResult.listing
  | .complete sql position => do
    let position := position.getD (Text.byteLength sql)
    let (hints, _) ← runOn env (Environment.hints engine sql position)
    return hints
  | .fragments path => do
    let script ← readScript w path
    let (_, env) ← runOn env (Environment.executeScript engine script)
    return [env.fragments.result.listing]

/-- Carries out a request. -/
def Request.run (w : Surroundings) (r : Request) : Output := do
  let env ← orFail (configuration w r >>= Planning.environment)
  perform Planning.engine w env r.task

/-! ### From words to an exit code -/

/-- The variable that names the configuration. -/
def configVariable : String := "FRAGSQL_CONFIG"

/-- What is left of a command when it ends. -/
structure Ending where
  code : Nat
  output : List String
  /-- Why it failed. -/
  complaint : Option String
deriving DecidableEq, Repr

/-- Reads a command line and carries it out. -/
def run (w : Surroundings) (words : List String) : Ending :=
  match Request.read (w.values configVariable) words with
  | .error fault => ⟨if fault.isMistake then 2 else 0, [], none⟩
  | .ok request =>
    match request.run w with
    | .ok lines => ⟨0, lines, none⟩
    | .error failure => ⟨1, [], some failure.message⟩

end Stencil.Command
