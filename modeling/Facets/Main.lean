import Facets.Command.Run

/-!
# The program

`main` looks up what a run can depend on, has `Facets.run` say what it does, and does it.
A run sees no file but that of the configuration and the directories above it.  The home directory
of the account is not looked up.
-/

namespace Facets.Program

/-- What is wrong with a command line. -/
def usageMessage : UsageError → Text
  | .unexpectedArgument a => "unexpected argument '".toList ++ a ++ "' found".toList
  | .repeatedOption n => "the argument '".toList ++ n ++ "' cannot be used multiple times".toList
  | .missingValue n => "a value is required for '".toList ++ n ++ "' but none was supplied".toList
  | .unexpectedValue n => "unexpected value for '".toList ++ n ++ "' found".toList
  | .conflictingOptions =>
    "the argument '--quiet' cannot be used with '--verbose'".toList
  | .missingOperand => "required arguments were not provided".toList
  | .unknownShell n => "invalid value '".toList ++ n ++ "' for a shell".toList
  | .unknownCommand n => "unrecognized subcommand '".toList ++ n ++ "'".toList

/-- The names of the commands below a command. -/
def commandNames (p : Place) : List Text := p.commands.map Prod.fst

/-- What this program says where it has no library to say it. -/
def wording : Wording where
  help p := line ("Usage: ".toList ++ Text.join [' '] p.path) ++
    (commandNames p).flatMap fun c => line ("  ".toList ++ c)
  usageError e := line ("error: ".toList ++ usageMessage e)
  completions
    | .bash => line ("complete -W '".toList ++ Text.join [' '] (commandNames .root) ++
        "' drill".toList)
    | _ => []
  malformed _ := "not a configuration in TOML".toList

/-- The environment of the process. -/
def environment : IO Environment := do
  let variableOf (name : String) : IO (Option Text) := do
    return (← IO.getEnv name).map String.toList
  return {
    configFile := ← variableOf "DRILL_CONFIG"
    configHome := ← variableOf "XDG_CONFIG_HOME"
    home := ← variableOf "HOME"
    baseUrl := ← variableOf "DRILL_BASE_URL"
    noColor := (← IO.getEnv "NO_COLOR").isSome
    wording }

/-- A location as the system writes it. -/
def systemPath (l : Location) : String :=
  match l with
  | ['/'] :: names => "/" ++ String.intercalate "/" (names.map String.ofList)
  | names => String.intercalate "/" (names.map String.ofList)

/-- What stands at a location below directories, if anything does; a directory is taken as
    empty. -/
def readEntry (l : Location) : IO (Option FileTree) := do
  try
    return some (.file (← IO.FS.readFile (systemPath l)).toList)
  catch
    | .inappropriateType .. => return some .empty
    | .noFileOrDirectory .. | .invalidArgument .. => return none
    | e => throw e

/-- What stands on the way along a path, as far as a file: nothing is below it. -/
def readTree (path : Text) : IO FileTree := do
  let mut tree := FileTree.empty
  let mut location : Location := []
  for name in FileTree.pathNames path do
    location := FileTree.step location name
    if (tree.find? location).isNone then
      if let some entry ← readEntry location then tree := tree.insert entry location
    if let some (.file _) := tree.find? location then break
  return tree

/-- Writes what a tree holds and another one does not. -/
def writeChanges (before after : FileTree) : IO Unit := do
  for (location, content?) in after.listing do
    match content? with
    | some content =>
      unless (before.find? location).bind FileTree.content? = some content do
        IO.FS.writeFile (systemPath location) (String.ofList content)
    | none =>
      if (before.find? location).isNone then IO.FS.createDirAll (systemPath location)

end Facets.Program

open Facets Facets.Program

def main (arguments : List String) : IO UInt32 := do
  let env ← environment
  let before ← match env.configPath with
    | .ok path => readTree path
    | .error _ => pure .empty
  let (outcome, after) := run env before (arguments.map String.toList)
  writeChanges before after
  IO.print (String.ofList outcome.stdout)
  IO.eprint (String.ofList outcome.stderr)
  return outcome.exit.toUInt32
