/-
Requests: command lines that have been read.

A command line is a row of words.  Options stand in front of the command or
behind it, and those that hold everywhere count in either place, the later one
for a value.  A word behind `--` is never an option.  The value of an option is
looked at when the next option or argument begins, so of two faults the one that
is noticed first is reported.
-/
import Stencil.Command.Usage
import Stencil.Decimal.Natural
import Stencil.Plan.Description
import Stencil.Settings

namespace Stencil.Command

/-- What is to be done. -/
inductive Task where
  | explain (script : String) (details : List Plan.Detail)
  | graph (script : String)
  | execute (script : String)
  | complete (sql : String) (position : Option Nat)
  | fragments (script : String)
deriving DecidableEq, Repr

/-- The path of the script that a task reads. -/
def Task.script? : Task → Option String
  | explain script _ | graph script | execute script | fragments script => some script
  | complete .. => none

/-- What a command line asks for. -/
structure Request where
  config : Option String
  withoutFragments : Bool
  parallelism : Option Nat
  task : Task
deriving DecidableEq, Repr

/-- The settings with what the command line says about them. -/
def Request.apply (r : Request) (s : Settings) : Settings :=
  { s with
    substituting := s.substituting && !r.withoutFragments
    parallelism := r.parallelism.getD s.parallelism }

/-! ### Options -/

/-- The options that have been given in one place. -/
structure Given where
  flags : List Choice
  config : Option String
  parallelism : Option Nat
  position : Option Nat
deriving DecidableEq, Repr

namespace Given

def empty : Given := ⟨[], none, none, none⟩

/-- Positions are kept in 64 bits. -/
def positionBound : Nat := Nat.pow 2 64

/-- The parallelism that a value stands for; a zero may have a minus. -/
def readParallelism? : List Char → Option Nat
  | '-' :: digits => if digits.head? = some '+' then none else Decimal.readNatural? 1 digits
  | digits => Decimal.readNatural? Settings.parallelismBound digits

/-- Adds an option that stands alone. -/
def addFlag (g : Given) (c : Choice) : Except Fault Given :=
  match c with
  | .help => .error .helpWanted
  | .version => .error .versionWanted
  | c => if g.flags.contains c then .error .repeatedOption
    else .ok { g with flags := c :: g.flags }

/-- Adds an option with its value. -/
def addValue (g : Given) (c : Choice) (value : String) : Except Fault Given :=
  match c with
  | .config =>
    if g.config.isSome then .error .repeatedOption
    else if value.isEmpty then .error .valueMissing
    else .ok { g with config := some value }
  | .parallelism =>
    if g.parallelism.isSome then .error .repeatedOption
    else
      match readParallelism? value.toList with
      | some n => .ok { g with parallelism := some n }
      | none => .error .badValue
  | .position =>
    if g.position.isSome then .error .repeatedOption
    else
      match Decimal.readNatural? positionBound value.toList with
      | some n => .ok { g with position := some n }
      | none => .error .badValue
  | _ => .error .valueUnwanted

/-- The option was given. -/
def has (g : Given) (c : Choice) : Bool := g.flags.contains c

/-- What may be added to an explanation, in a fixed order. -/
def details (g : Given) : List Plan.Detail :=
  (if g.has .estimatedCost then [.estimatedCost] else [])
    ++ (if g.has .changelogMode then [.changelogMode] else [])
    ++ (if g.has .jsonPlan then [.jsonExecutionPlan] else [])

end Given

/-! ### Words -/

/-- What has been read in one place: in front of the command, or behind it. -/
structure Progress where
  given : Given
  /-- An option whose value has not been looked at, with the value if it has come. -/
  waiting : Option (Choice × Option String)
  argument : Option String
  /-- No more options follow. -/
  closed : Bool

namespace Progress

def start : Progress := ⟨.empty, none, none, false⟩

/-- Looks at the value of the waiting option. -/
def settle (p : Progress) : Except Fault Progress :=
  match p.waiting with
  | none => .ok p
  | some (_, none) => .error .valueMissing
  | some (c, some value) => do
    return { p with given := ← p.given.addValue c value, waiting := none }

/-- The next word is the value of the waiting option. -/
def awaitsValue (p : Progress) : Bool :=
  match p.waiting with
  | some (_, none) => true
  | _ => false

/-- Reads an option that stands alone. -/
def flag (p : Progress) (c : Choice) : Except Fault Progress := do
  let p ← p.settle
  return { p with given := ← p.given.addFlag c }

/-- Reads an option, given with a value behind an equals sign or without one. -/
def option (p : Progress) (c : Choice) (attached : Option String) : Except Fault Progress :=
  match c.takesValue, attached with
  | true, some value => do
    let p ← p.settle
    return { p with given := ← p.given.addValue c value }
  | true, none => do return { ← p.settle with waiting := some (c, none) }
  | false, some _ => .error .valueUnwanted
  | false, none => p.flag c

/-- Reads what stands behind two hyphens. -/
def long (verb : Option Verb) (p : Progress) (cs : List Char) : Except Fault Progress :=
  let name := String.ofList (cs.takeWhile (· != '='))
  let attached :=
    match cs.dropWhile (· != '=') with
    | _ :: value => some (String.ofList value)
    | [] => none
  match (options verb).find? fun c => c.name == name with
  | some c => p.option c attached
  | none => .error .unknownArgument

/-- Reads a letter behind one hyphen. -/
def short (verb : Option Verb) (p : Progress) (c : Char) : Except Fault Progress :=
  match (options verb).find? fun o => o.letter? == some c with
  | some o => p.flag o
  | none => .error .unknownArgument

/-- Reads a word that is no option: in front of the command there is no room for one. -/
def plain (verb : Option Verb) (p : Progress) (word : String) : Except Fault Progress :=
  match verb with
  | none =>
    if p.closed && (word == "help" || (Verb.ofName? word).isSome) then .error .unknownArgument
    else .error .unknownCommand
  | some _ =>
    if p.argument.isSome then .error .unknownArgument
    else do return { ← p.settle with argument := some word }

/-- Reads a word. -/
def word (verb : Option Verb) (p : Progress) (w : String) : Except Fault Progress :=
  if p.closed then p.plain verb w
  else
    match w.toList, p.waiting with
    | ['-', '-'], _ => .ok { p with closed := true }
    | '-' :: '-' :: name, _ => p.long verb name
    | '-' :: c :: _, _ => p.short verb c
    | _, some (c, none) => .ok { p with waiting := some (c, some w) }
    | _, _ => p.plain verb w

/-- Ends the reading in one place; `config` is the path that counts where none is given. -/
def finish (config : Option String) (p : Progress) : Except Fault Progress := do
  let p ← p.settle
  if p.given.config.isNone && config == some "" then throw .valueMissing
  return p

end Progress

/-! ### Command lines -/

/-- Asking for help about a command, which has to exist. -/
def helpFault : List String → Fault
  | [] => .helpWanted
  | [word] =>
    if word == "help" || (Verb.ofName? word).isSome then .helpWanted else .unknownCommand
  | _ => .unknownCommand

/-- Reads words up to a command; the command comes with the words behind it. -/
def readFront (p : Progress) : List String → Except Fault (Progress × Option (Verb × List String))
  | [] => .ok (p, none)
  | w :: rest =>
    if p.closed || p.awaitsValue then do readFront (← p.word none w) rest
    else if w == "help" then .error (helpFault rest)
    else
      match Verb.ofName? w with
      | some verb => .ok (p, some (verb, rest))
      | none => do readFront (← p.word none w) rest

/-- What a command is to do with its argument. -/
def taskOf (verb : Verb) (given : Given) (argument : String) : Task :=
  match verb with
  | .explain => .explain argument given.details
  | .graph => .graph argument
  | .execute => .execute argument
  | .complete => .complete argument given.position
  | .fragments => .fragments argument

/-- Reads the words behind a command. -/
def readBehind (config : Option String) (verb : Verb) (words : List String) :
    Except Fault (Given × Task) := do
  let p ← (← words.foldlM (Progress.word (some verb)) .start).finish config
  match p.argument with
  | some argument => return (p.given, taskOf verb p.given argument)
  | none => throw .argumentMissing

/-- No option at all has been given. -/
def Progress.isBlank (p : Progress) : Bool := p.given == .empty

/-- Reads a command line; `config` is the path that counts where none is given. -/
def Request.read (config : Option String) (words : List String) : Except Fault Request := do
  let (front, command) ← readFront .start words
  let behind ← command.mapM fun (verb, rest) => readBehind config verb rest
  let front ← front.finish config
  match behind with
  | none => throw (if front.isBlank && config.isNone then .nothingSaid else .commandMissing)
  | some (given, task) =>
    return {
      config := given.config <|> front.given.config <|> config
      withoutFragments := given.has .withoutFragments || front.given.has .withoutFragments
      parallelism := given.parallelism <|> front.given.parallelism
      task }

end Stencil.Command
