import Facets.Keyed
import Facets.Text.Basic

/-!
# Command lines

A command line is a list of arguments: options, the name of a command, options and operands of the
command, and for `config` the name of a command below it.  `Request.ofArguments` reads it one
argument after the other, keeping the command read so far as a `Place`.

The options that every command has may stand at any level, before or after the name of a command.
At one level each may be given once, and `--quiet` and `--verbose` exclude one another.  An
argument that begins with `-` is an option, unless it is `-` alone or stands after `--`.  A base
URL given as an argument of its own is settled when the next option of its level comes, or at the
end.
-/

namespace Facets

/-- The shells for which completions are written. -/
inductive Shell where
  | bash
  | zsh
  | fish
  | powershell
deriving DecidableEq

/-- The name of a shell. -/
def Shell.name : Shell → Text
  | .bash => "bash".toList
  | .zsh => "zsh".toList
  | .fish => "fish".toList
  | .powershell => "powershell".toList

/-- The shell of a name. -/
def Shell.ofName? (name : Text) : Option Shell :=
  [Shell.bash, .zsh, .fish, .powershell].find? (·.name = name)

/-- What the program is to do. -/
inductive Command where
  /-- Say what the program is. -/
  | hint
  | info (arguments : List Text)
  | filters (specification : Text)
  | link (html : Bool) (arguments : List Text)
  | configShow
  | configSet (key value : Text)
  | configPath
  | completions (shell : Shell)
deriving DecidableEq

/-- The options that every command has. -/
structure Options where
  verbose : Bool := false
  quiet : Bool := false
  json : Bool := false
  noColor : Bool := false
  baseUrl : Option Text := none
deriving DecidableEq

/-- A command with its options. -/
structure Invocation where
  options : Options
  command : Command
deriving DecidableEq

/-- What is wrong with a command line. -/
inductive UsageError where
  | unexpectedArgument (argument : Text)
  | repeatedOption (name : Text)
  | missingValue (name : Text)
  | unexpectedValue (name : Text)
  | conflictingOptions
  | missingOperand
  | unknownShell (name : Text)
  | unknownCommand (name : Text)
deriving DecidableEq

/-! ## Places -/

/-- The command that has been read so far. -/
inductive Place where
  | root
  | info
  | filters
  | link
  | config
  | configShow
  | configSet
  | configPath
  | completions
deriving DecidableEq

namespace Place

/-- The names on the way to a command. -/
def path : Place → List Text
  | .root => ["drill".toList]
  | .info => ["drill".toList, "info".toList]
  | .filters => ["drill".toList, "filters".toList]
  | .link => ["drill".toList, "link".toList]
  | .config => ["drill".toList, "config".toList]
  | .configShow => ["drill".toList, "config".toList, "show".toList]
  | .configSet => ["drill".toList, "config".toList, "set".toList]
  | .configPath => ["drill".toList, "config".toList, "path".toList]
  | .completions => ["drill".toList, "completions".toList]

/-- The commands below a command, by name. -/
def commands : Place → List (Text × Place)
  | .root =>
    [("info".toList, .info), ("i".toList, .info), ("filters".toList, .filters),
      ("f".toList, .filters), ("link".toList, .link), ("l".toList, .link),
      ("config".toList, .config), ("completions".toList, .completions)]
  | .config =>
    [("show".toList, .configShow), ("set".toList, .configSet), ("path".toList, .configPath)]
  | _ => []

/-- Whether one more operand may follow some operands. -/
def admitsOperand (p : Place) (operands : List Text) : Bool :=
  match p with
  | .info | .link => true
  | .filters | .completions => operands.length < 1
  | .configSet => operands.length < 2
  | .root | .config | .configShow | .configPath => false

/-- The command of a place with its operands, if there are enough of them. -/
def command (p : Place) (html : Bool) (operands : List Text) : Except UsageError Command :=
  match p, operands with
  | .root, _ => .ok .hint
  | .info, arguments => .ok (.info arguments)
  | .filters, [specification] => .ok (.filters specification)
  | .link, arguments => .ok (.link html arguments)
  | .config, _ => .ok .configShow
  | .configShow, _ => .ok .configShow
  | .configSet, [key, value] => .ok (.configSet key value)
  | .configPath, _ => .ok .configPath
  | .completions, [name] =>
    match Shell.ofName? name with
    | some shell => .ok (.completions shell)
    | none => .error (.unknownShell name)
  | _, _ => .error .missingOperand

end Place

/-! ## Options -/

/-- The options without a value. -/
inductive Flag where
  | verbose
  | quiet
  | json
  | noColor
  | html
deriving DecidableEq

/-- The long name of a flag. -/
def Flag.name : Flag → Text
  | .verbose => "--verbose".toList
  | .quiet => "--quiet".toList
  | .json => "--json".toList
  | .noColor => "--no-color".toList
  | .html => "--html".toList

/-- What an option asks for. -/
inductive OptionKind where
  | flag (f : Flag)
  | baseUrl
  | version
  | help
deriving DecidableEq

/-- The option of a long name, at a place. -/
def OptionKind.ofLong? (p : Place) (name : Text) : Option OptionKind :=
  if name = "verbose".toList then some (.flag .verbose)
  else if name = "quiet".toList then some (.flag .quiet)
  else if name = "json".toList then some (.flag .json)
  else if name = "no-color".toList then some (.flag .noColor)
  else if name = "html".toList ∧ p = .link then some (.flag .html)
  else if name = "base-url".toList then some .baseUrl
  else if name = "version".toList then some .version
  else if name = "help".toList then some .help
  else none

/-- The option of a letter. -/
def OptionKind.ofShort? (c : Char) : Option OptionKind :=
  if c = 'v' then some (.flag .verbose)
  else if c = 'q' then some (.flag .quiet)
  else if c = 'V' then some .version
  else if c = 'h' then some .help
  else none

/-- The options given at one level. -/
structure Level where
  flags : List Flag := []
  baseUrl : Option Text := none
  /-- A base URL that is not settled yet. -/
  pending : Option Text := none
deriving DecidableEq

namespace Level

/-- The long name of the option that has a value. -/
def baseUrlName : Text := "--base-url".toList

/-- A level with a base URL, which must be the only one. -/
def setBaseUrl (l : Level) (url : Text) : Except UsageError Level :=
  if l.baseUrl.isSome then .error (.repeatedOption baseUrlName)
  else .ok { l with baseUrl := some url }

/-- A level whose base URL is settled. -/
def settle (l : Level) : Except UsageError Level :=
  match l.pending with
  | some url => { l with pending := none }.setBaseUrl url
  | none => .ok l

/-- A level with one more flag, which must be new. -/
def addFlag (l : Level) (f : Flag) : Except UsageError Level :=
  if f ∈ l.flags then .error (.repeatedOption f.name) else .ok { l with flags := f :: l.flags }

/-- A level at the end of a command line. -/
def close (l : Level) : Except UsageError Level := do
  let l ← l.settle
  if Flag.quiet ∈ l.flags ∧ Flag.verbose ∈ l.flags then throw .conflictingOptions
  return l

end Level

/-- The options of several levels, the innermost first: a flag counts from any level, the base URL
    from the first that has one. -/
def Options.ofLevels (ls : List Level) : Options where
  verbose := ls.any (Flag.verbose ∈ ·.flags)
  quiet := ls.any (Flag.quiet ∈ ·.flags)
  json := ls.any (Flag.json ∈ ·.flags)
  noColor := ls.any (Flag.noColor ∈ ·.flags)
  baseUrl := ls.findSome? (·.baseUrl)

/-! ## Reading -/

/-- What a command line asks for. -/
inductive Request where
  | run (i : Invocation)
  /-- The version of the program, under the names of a command. -/
  | version (path : List Text)
  /-- Help on a command. -/
  | help (p : Place)
deriving DecidableEq

/-- Why reading ends before the last argument. -/
inductive Stop where
  | usage (e : UsageError)
  | answer (r : Request)

/-- A command line while it is read. -/
structure Reading where
  place : Place := .root
  /-- The options at the level of the place. -/
  level : Level := {}
  /-- The levels around it, the innermost first. -/
  outer : List Level := []
  operands : List Text := []
  /-- Whether the next argument is a base URL. -/
  awaitsBaseUrl : Bool := false
  /-- Whether all further arguments are operands. -/
  literal : Bool := false
  /-- Whether help is asked for by name; all further arguments name the command. -/
  helps : Bool := false

namespace Reading

/-- A step of reading that can only fail by misuse. -/
def orUsage {α : Type} (r : Except UsageError α) : Except Stop α :=
  match r with
  | .ok a => .ok a
  | .error e => .error (.usage e)

/-- A reading after an option, which may have its value attached. -/
def addOption (r : Reading) (k : OptionKind) (name : Text) (value : Option Text) :
    Except Stop Reading :=
  match k, value with
  | .baseUrl, some url => do
    let l ← orUsage r.level.settle
    return { r with level := ← orUsage (l.setBaseUrl url) }
  | .baseUrl, none => do
    return { r with level := ← orUsage r.level.settle, awaitsBaseUrl := true }
  | _, some _ => .error (.usage (.unexpectedValue name))
  | .flag f, none => do
    let l ← orUsage r.level.settle
    return { r with level := ← orUsage (l.addFlag f) }
  | .version, none => do
    let _ ← orUsage r.level.settle
    throw (.answer (.version r.place.path))
  | .help, none => do
    let _ ← orUsage r.level.settle
    throw (.answer (.help r.place))

/-- A reading after an argument that begins with two dashes. -/
def addLong (r : Reading) (argument : Text) : Except Stop Reading :=
  let body := argument.drop 2
  let (name, value) := match Text.cut? '=' body with
    | some (name, value) => (name, some value)
    | none => (body, none)
  match OptionKind.ofLong? r.place name with
  | some k => r.addOption k ("--".toList ++ name) value
  | none => .error (.usage (.unexpectedArgument argument))

/-- A reading after one letter of an argument that begins with one dash. -/
def addShort (r : Reading) (c : Char) : Except Stop Reading :=
  match OptionKind.ofShort? c with
  | some k => r.addOption k ['-', c] none
  | none => .error (.usage (.unexpectedArgument ['-', c]))

/-- A reading after an operand. -/
def addOperand (r : Reading) (argument : Text) : Except Stop Reading :=
  if r.place.admitsOperand r.operands then
    if r.place = .completions ∧ (Shell.ofName? argument).isNone then
      .error (.usage (.unknownShell argument))
    else .ok { r with operands := r.operands ++ [argument] }
  else .error (.usage (.unexpectedArgument argument))

/-- A reading after the name of a command, whose level begins there. -/
def enter (r : Reading) (p : Place) : Reading :=
  { r with place := p, level := {}, outer := r.level :: r.outer }

/-- Whether an argument is one or more options. -/
def isOption (argument : Text) : Bool := argument.head? == some '-' && argument != ['-']

/-- A reading after one more argument. -/
def add (r : Reading) (argument : Text) : Except Stop Reading :=
  if r.helps then
    -- All that follows names the command that help is asked for.
    match r.place.commands.lookup argument with
    | some p => .ok { r with place := p }
    | none => .error (.usage (.unknownCommand argument))
  else if r.literal then r.addOperand argument
  else if r.awaitsBaseUrl then
    -- Even the name of a command is a base URL here, but an option is not.
    if isOption argument then .error (.usage (.missingValue Level.baseUrlName))
    else
      .ok { r with level := { r.level with pending := some argument }, awaitsBaseUrl := false }
  else
    match r.place.commands.lookup argument with
    | some p => .ok (r.enter p)
    | none =>
      if argument = "help".toList ∧ r.place.commands ≠ [] then .ok { r with helps := true }
      else if argument = "--".toList then .ok { r with literal := true }
      else if (Text.dropPrefix? "--".toList argument).isSome then r.addLong argument
      else if isOption argument then (argument.drop 1).foldlM addShort r
      else r.addOperand argument

/-- What a command line asks for when it has been read to its end. -/
def finish (r : Reading) : Except UsageError Request := do
  if r.helps then return .help r.place
  -- What is wrong at one level is found only now, so that `--version` could come first.
  if r.awaitsBaseUrl then throw (.missingValue Level.baseUrlName)
  let levels ← (r.level :: r.outer).mapM Level.close
  let command ← r.place.command (Flag.html ∈ r.level.flags) r.operands
  return .run ⟨Options.ofLevels levels, command⟩

end Reading

/-- What a command line asks for. -/
def Request.ofArguments (arguments : List Text) : Except UsageError Request :=
  match arguments.foldlM Reading.add {} with
  | .ok r => r.finish
  | .error (.answer request) => .ok request
  | .error (.usage e) => .error e

end Facets
