import RegionSync.Path

set_option autoImplicit false

/-! # Command line arguments

The arguments are read from left to right on two levels: before the subcommand and after it. An
option that takes a value has it attached (`--path=x`, `-px`, `-p=x`) or as the next argument. An
option whose value is the next argument is entered only when the next option is met or the
arguments of its level end, so that is where a missing or repeated one is noticed. Flags without
a value may be joined (`-vp x`). The first problem met ends the reading.
-/

namespace RegionSync.Cli

/-! ## Options -/

/-- The options. -/
inductive Flag where
  | path
  | config
  | verbose
  | noColor
  | dryRun
  | json
  | ignoreStdin
  | help
  | version
deriving DecidableEq

namespace Flag

/-- The long name, without its dashes. -/
def long : Flag → String
  | path => "path"
  | config => "config"
  | verbose => "verbose"
  | noColor => "no-color"
  | dryRun => "dry-run"
  | json => "json"
  | ignoreStdin => "ignore-stdin"
  | help => "help"
  | version => "version"

/-- The short name, if there is one. -/
def short? : Flag → Option Char
  | path => some 'p'
  | config => some 'c'
  | verbose => some 'v'
  | help => some 'h'
  | version => some 'V'
  | _ => none

/-- How the value is called, if the option takes one. -/
def valueName? : Flag → Option String
  | path => some "PATH"
  | config => some "CONFIG"
  | _ => none

/-- Whether the option takes a value. -/
def takesValue (flag : Flag) : Bool := flag.valueName?.isSome

/-- The option as messages show it. -/
def display (flag : Flag) : String :=
  "--" ++ flag.long ++ match flag.valueName? with
    | some value => " <" ++ value ++ ">"
    | none => ""

end Flag

/-- Where options stand: before the subcommand, or after it. -/
inductive Scope where
  | top
  | check
  | watch
deriving DecidableEq

namespace Scope

/-- The options that are understood. -/
def flags : Scope → List Flag
  | top => [.path, .config, .verbose, .noColor, .help, .version]
  | check => [.dryRun, .json, .path, .config, .verbose, .noColor, .help, .version]
  | watch => [.ignoreStdin, .path, .config, .verbose, .noColor, .help, .version]

/-- The name of the program as a version is shown for it. -/
def programName : Scope → String
  | top => "meta-react"
  | check => "meta-react-check"
  | watch => "meta-react-watch"

/-- The option with a long name. -/
def findLong? (scope : Scope) (name : List Char) : Option Flag :=
  scope.flags.find? (·.long.toList == name)

/-- The option with a short name. -/
def findShort? (scope : Scope) (c : Char) : Option Flag := scope.flags.find? (·.short? == some c)

end Scope

/-! ## Why nothing is run -/

/-- What is wrong with the arguments. -/
inductive UsageError where
  | noArguments
  | missingSubcommand
  | unknownSubcommand (name : String)
  | unknownArgument (text : String)
  | missingValue (flag : Flag)
  | repeated (flag : Flag)
  | unwantedValue (flag : Flag) (value : String)
deriving DecidableEq

/-- What the program is for. -/
def about : String := "Regenerates the boilerplate regions of annotated component sources"

/-- The first line that is shown for an error. -/
def UsageError.message : UsageError → String
  | noArguments => about
  | missingSubcommand => "error: 'meta-react' requires a subcommand but one was not provided"
  | unknownSubcommand name => "error: unrecognized subcommand '" ++ name ++ "'"
  | unknownArgument text => "error: unexpected argument '" ++ text ++ "' found"
  | missingValue flag =>
    "error: a value is required for '" ++ flag.display ++ "' but none was supplied"
  | repeated flag => "error: the argument '" ++ flag.display ++ "' cannot be used multiple times"
  | unwantedValue flag value =>
    "error: unexpected value '" ++ value ++ "' for '" ++ flag.display ++
      "' found; no more were expected"

/-- Why no command is run. -/
inductive Stop where
  /-- The help page of a scope was asked for. -/
  | help (scope : Scope)
  /-- The version was asked for. -/
  | version (scope : Scope)
  | misused (error : UsageError)
deriving DecidableEq

/-! ## Reading one level -/

/-- The options read so far on a level. -/
structure Reading where
  /-- The options that are entered, with their values. -/
  given : List (Flag × String) := []
  /-- The option that is not entered yet, with its value if that was met. -/
  pending : Option (Flag × Option String) := none
  /-- Whether `--` was met: no option follows it. -/
  escaped : Bool := false

namespace Reading

/-- Whether the next argument may be the value of an option. -/
def awaitsValue (reading : Reading) : Bool :=
  match reading.pending with
  | some (_, none) => true
  | _ => false

/-- Enters an option. -/
def enter (reading : Reading) (flag : Flag) (value : String) : Except Stop Reading :=
  if (reading.given.lookup flag).isSome then .error (.misused (.repeated flag))
  else .ok { reading with given := (flag, value) :: reading.given }

/-- Enters the pending option, which must have its value. -/
def settle (reading : Reading) : Except Stop Reading :=
  match reading.pending with
  | none => .ok reading
  | some (flag, none) => .error (.misused (.missingValue flag))
  | some (flag, some value) => enter { reading with pending := none } flag value

/-- Takes an option together with its value, which is empty for a flag. -/
def take (reading : Reading) (scope : Scope) (flag : Flag) (value : String) : Except Stop Reading :=
  match reading.settle with
  | .error stop => .error stop
  | .ok reading =>
    match flag with
    | .help => .error (.help scope)
    | .version => .error (.version scope)
    | flag => reading.enter flag value

/-- Takes an option whose value must follow. -/
def announce (reading : Reading) (flag : Flag) : Except Stop Reading :=
  match reading.settle with
  | .error stop => .error stop
  | .ok reading => .ok { reading with pending := some (flag, none) }

/-- Takes an option by its long name, what follows the dashes being `text`. -/
def takeLong (reading : Reading) (scope : Scope) (text : List Char) : Except Stop Reading :=
  let name := text.takeWhile (· != '=')
  let attached := (text.dropWhile (· != '=')).tail
  let isAttached := name.length < text.length
  match scope.findLong? name with
  | none => .error (.misused (.unknownArgument ("--" ++ String.ofList name)))
  | some flag =>
    if flag.takesValue then
      if isAttached then reading.take scope flag (String.ofList attached) else reading.announce flag
    else if isAttached then .error (.misused (.unwantedValue flag (String.ofList attached)))
    else reading.take scope flag ""

/-- Takes options by their short names. The first that takes a value takes the rest of the
argument as its value. -/
def takeShort (scope : Scope) : List Char → Reading → Except Stop Reading
  | [], reading => .ok reading
  | c :: rest, reading =>
    match scope.findShort? c with
    | none => .error (.misused (.unknownArgument ("-" ++ String.ofList [c])))
    | some flag =>
      if flag.takesValue then
        match rest with
        | [] => reading.announce flag
        | '=' :: value => reading.take scope flag (String.ofList value)
        | value => reading.take scope flag (String.ofList value)
      else
        match reading.take scope flag "" with
        | .error stop => .error stop
        | .ok reading => takeShort scope rest reading

end Reading

/-- The names of the subcommands. -/
def subcommands : List String := ["check", "watch", "help"]

/-- The error of an argument that is neither an option nor a subcommand. -/
def strayArgument (scope : Scope) (escaped : Bool) (arg : String) : UsageError :=
  match scope with
  | .top =>
    if escaped && subcommands.contains arg then .unknownArgument arg else .unknownSubcommand arg
  | _ => .unknownArgument arg

/-- Takes one argument that is not a subcommand. -/
def Reading.takeArgument (reading : Reading) (scope : Scope) (arg : String) :
    Except Stop Reading :=
  match arg.toList with
  | ['-', '-'] => .ok { reading with escaped := true }
  | '-' :: '-' :: text => reading.takeLong scope text
  | '-' :: c :: text => takeShort scope (c :: text) reading
  | _ =>
    match reading.pending with
    | some (flag, none) => .ok { reading with pending := some (flag, some arg) }
    | _ => .error (.misused (strayArgument scope reading.escaped arg))

/-- Reads the arguments of a level up to a subcommand, and gives the subcommand with the arguments
after it. -/
def readLevel (scope : Scope) :
    Reading → List String → Except Stop (Reading × Option (String × List String))
  | reading, [] => .ok (reading, none)
  | reading, arg :: rest =>
    if reading.escaped then .error (.misused (strayArgument scope true arg))
    else if scope = .top && !reading.awaitsValue && subcommands.contains arg then
      .ok (reading, some (arg, rest))
    else
      match reading.takeArgument scope arg with
      | .error stop => .error stop
      | .ok reading => readLevel scope reading rest

/-! ## Reading all arguments -/

/-- What to run. -/
inductive Command where
  | check (dryRun json : Bool)
  | watch (ignoreStdin : Bool)
deriving DecidableEq

/-- A call of the program. -/
structure Invocation where
  command : Command
  path : Option Path
  config : Option Path
  verbose : Bool
  noColor : Bool
deriving DecidableEq

/-- The environment variables. -/
abbrev Environment := List (String × String)

/-- The variable that gives the path where no option does. -/
def pathVariable : String := "META_REACT_PATH"

/-- The variable that gives the configuration file where no option does. -/
def configVariable : String := "META_REACT_CONFIG"

/-- Whether the environment gives an option. -/
def Environment.givesOption (env : Environment) : Bool :=
  (env.lookup pathVariable).isSome || (env.lookup configVariable).isSome

/-- The end of `help` with the names that follow it. -/
def helpStop : List String → Stop
  | [] => .help .top
  | "check" :: rest => rest.head?.elim (.help .check) fun name => .misused (.unknownSubcommand name)
  | "watch" :: rest => rest.head?.elim (.help .watch) fun name => .misused (.unknownSubcommand name)
  | "help" :: rest => rest.head?.elim (.help .top) fun name => .misused (.unknownSubcommand name)
  | name :: _ => .misused (.unknownSubcommand name)

/-- The call that the options of the two levels make; after the subcommand they count more than
before it, and both count more than the environment. -/
def invocation (env : Environment) (scope : Scope) (before after : Reading) : Invocation :=
  let value (flag : Flag) (name : String) : Option Path :=
    ((after.given.lookup flag <|> before.given.lookup flag) <|> env.lookup name).map Path.mk
  let isGiven (flag : Flag) : Bool :=
    (after.given.lookup flag).isSome || (before.given.lookup flag).isSome
  { command := match scope with
      | .watch => .watch (isGiven .ignoreStdin)
      | _ => .check (isGiven .dryRun) (isGiven .json)
    path := value .path pathVariable
    config := value .config configVariable
    verbose := isGiven .verbose
    noColor := isGiven .noColor }

/-- Reads the arguments of the program. -/
def parseArgs (env : Environment) (args : List String) : Except Stop Invocation := do
  let (before, subcommand) ← readLevel .top {} args
  match subcommand with
  | none =>
    let before ← before.settle
    if before.given.isEmpty && !env.givesOption then .error (.misused .noArguments)
    else .error (.misused .missingSubcommand)
  | some ("help", rest) => .error (helpStop rest)
  | some (name, rest) =>
    let scope := if name = "watch" then .watch else .check
    let (after, _) ← readLevel scope {} rest
    let after ← after.settle
    let before ← before.settle
    .ok (invocation env scope before after)

end RegionSync.Cli
