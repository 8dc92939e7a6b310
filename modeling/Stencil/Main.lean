/-
The command line program.

It gathers what a command finds around it, lets the library carry the command
out, and prints what comes of it.
-/
import Stencil.Command.Run

namespace Stencil.Program

/-- Why reading failed, from what the system reports. -/
def readFault : IO.Error → Command.ReadFault
  | .noFileOrDirectory .. => .missing
  | .inappropriateType _ code _ => if code == 20 then .notADirectory else .isDirectory
  | _ => .missing

/-- The text in some bytes. -/
def textOf (bytes : ByteArray) : Except Command.ReadFault String :=
  match String.fromUTF8? bytes with
  | some text => .ok text
  | none => .error .notText

/-- The text of a file. -/
def readFile (path : String) : IO (Except Command.ReadFault String) := do
  try
    return textOf (← IO.FS.readBinFile path)
  catch e =>
    return .error (readFault e)

/-- Where settings are looked for if no path is given. -/
def settingsPath (configHome home : Option String) : String :=
  let base :=
    match configHome.filter fun path => path.startsWith "/", home with
    | some path, _ => path
    | none, some home => home ++ "/.config"
    | none, none => "."
  base ++ "/fragsql/config.toml"

/-- The files that a command line makes the program read. -/
def pathsOf (settings : String) : Except Command.Fault Command.Request → List String
  | .ok request => [request.config.getD settings] ++ request.task.script?.toList
  | .error _ => []

/-- The texts of files under their paths. -/
def readFiles (paths : List String) : IO Command.Files := do
  let texts ← paths.mapM fun path => do return (path, ← readFile path)
  return fun path => (texts.lookup path).getD (.error .missing)

/-- The text on standard input, read only where a script is expected there. -/
def readInput (paths : List String) : IO (Except Command.ReadFault String) := do
  if paths.contains Command.standardInput then
    let bytes ← (← IO.getStdin).readBinToEnd
    return textOf bytes
  else return .ok ""

/-- What a command line finds around it. -/
def surroundings (words : List String) : IO Command.Surroundings := do
  let names := [Settings.parallelismVariable, Settings.switchVariable, Command.configVariable]
  let read ← names.mapM fun name => do return (name, ← IO.getEnv name)
  let values : Settings.Variables := fun name => (read.lookup name).join
  let settings := settingsPath (← IO.getEnv "XDG_CONFIG_HOME") (← IO.getEnv "HOME")
  let paths := pathsOf settings (Command.Request.read (values Command.configVariable) words)
  return {
    files := ← readFiles paths
    input := ← readInput paths
    values
    settingsPath := settings }

end Stencil.Program

open Stencil in
/-- Carries out the command line and ends with its exit code. -/
def main (words : List String) : IO UInt32 := do
  let ending := Command.run (← Program.surroundings words) words
  for line in ending.output do
    IO.println line
  for complaint in ending.complaint do
    IO.eprintln complaint
  return ending.code.toUInt32
