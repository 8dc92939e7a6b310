/-
What a command line may say.

Options are written with two hyphens and their name.  Some hold everywhere, the
others belong to one command.  `Fault` names the ways in which a command line can
be wrong; asking for help or for the version ends the reading in the same way.
-/
namespace Stencil.Command

/-- The commands. -/
inductive Verb where
  | explain
  | graph
  | execute
  | complete
  | fragments
deriving DecidableEq, Repr

namespace Verb

def all : List Verb := [explain, graph, execute, complete, fragments]

/-- The word that names a command. -/
def name : Verb → String
  | explain => "explain"
  | graph => "graph"
  | execute => "exec"
  | complete => "complete"
  | fragments => "fragments"

/-- The command that a word names. -/
def ofName? (word : String) : Option Verb := all.find? fun v => v.name == word

end Verb

/-- The options. -/
inductive Choice where
  | config
  | withoutFragments
  | parallelism
  | position
  | estimatedCost
  | changelogMode
  | jsonPlan
  | help
  | version
deriving DecidableEq, Repr

namespace Choice

/-- The name of an option, without hyphens. -/
def name : Choice → String
  | config => "config"
  | withoutFragments => "no-fragments"
  | parallelism => "parallelism"
  | position => "position"
  | estimatedCost => "estimated-cost"
  | changelogMode => "changelog-mode"
  | jsonPlan => "json-plan"
  | help => "help"
  | version => "version"

/-- The option is followed by a value. -/
def takesValue : Choice → Bool
  | config | parallelism | position => true
  | _ => false

/-- The letter that may stand for the option behind a single hyphen. -/
def letter? : Choice → Option Char
  | help => some 'h'
  | version => some 'V'
  | _ => none

end Choice

/-- The options of a command, or of the command line in front of it. -/
def options : Option Verb → List Choice
  | none => [.config, .withoutFragments, .parallelism, .help, .version]
  | some verb =>
    [.config, .withoutFragments, .parallelism, .help] ++
      match verb with
      | .explain => [.estimatedCost, .changelogMode, .jsonPlan]
      | .complete => [.position]
      | _ => []

/-- Why a command line is not carried out. -/
inductive Fault where
  /-- Help is asked for. -/
  | helpWanted
  /-- The version is asked for. -/
  | versionWanted
  /-- Nothing is said at all. -/
  | nothingSaid
  /-- There are options and no command. -/
  | commandMissing
  | unknownCommand
  /-- The command lacks what it works on. -/
  | argumentMissing
  | unknownArgument
  /-- An option is given twice in the same place. -/
  | repeatedOption
  /-- A value is not of the right kind. -/
  | badValue
  /-- An option lacks its value. -/
  | valueMissing
  /-- An option is given a value that it does not take. -/
  | valueUnwanted
deriving DecidableEq, Repr

/-- Asking for help or for the version is no mistake. -/
def Fault.isMistake : Fault → Bool
  | helpWanted | versionWanted => false
  | _ => true

end Stencil.Command
