import CourseLint.Files.Path
import CourseLint.Report.Format

set_option autoImplicit false

namespace CourseLint.CommandLine

inductive UsageError where
  | help
  | version (program : Text)
  | nothingGiven
  | missingCommand
  | missingPaths
  | unknownCommand
  | unknownArgument
  | invalidValue
  | unexpectedValue
  | repeatedFlag
deriving DecidableEq, Repr

inductive Flag where
  | config
  | project
  | noColor
  | debug
  | help
  | version
  | format
  | fix
  | strict
  | disable
  | long
deriving DecidableEq, Repr

namespace Flag

def longName : Flag → Text
  | .config => "config"
  | .project => "project"
  | .noColor => "no-color"
  | .debug => "debug"
  | .help => "help"
  | .version => "version"
  | .format => "format"
  | .fix => "fix"
  | .strict => "strict"
  | .disable => "disable"
  | .long => "long"

def shortName? : Flag → Option Char
  | .config => some 'c'
  | .project => some 'p'
  | .help => some 'h'
  | .version => some 'V'
  | .long => some 'l'
  | _ => none

def takesValue : Flag → Bool
  | .config | .project | .format | .disable => true
  | _ => false

end Flag

inductive Level where
  | top
  | lint
  | rules
deriving DecidableEq, Repr

namespace Level

def commonFlags : List Flag := [.config, .project, .noColor, .debug, .help, .version]

def flags : Level → List Flag
  | .top => commonFlags
  | .lint => commonFlags ++ [.format, .fix, .strict, .disable]
  | .rules => commonFlags ++ [.long]

def long? (level : Level) (name : Text) : Option Flag := level.flags.find? (·.longName == name)

def short? (level : Level) (c : Char) : Option Flag := level.flags.find? (·.shortName? == some c)

def programName : Level → Text
  | .top => "gtnlint"
  | .lint => "gtnlint-lint"
  | .rules => "gtnlint-rules"

def ofCommand? (name : Text) : Option Level :=
  if name = "lint".toList then some .lint
  else if name = "rules".toList then some .rules
  else none

end Level

def helpCommand : Text := "help"

structure Given where
  config : Option Path
  project : Option Path
  noColor : Bool
  debug : Bool
  format : Option ReportFormat
  fix : Bool
  strict : Bool
  disable : List Text
  long : Bool
  paths : List Path
deriving DecidableEq, Repr

namespace Given

def nothing : Given := ⟨none, none, false, false, none, false, false, [], false, []⟩

def path (text : Text) : Except UsageError Path :=
  if text.isEmpty then .error .invalidValue else .ok text

def format? (text : Text) : Except UsageError ReportFormat :=
  match ReportFormat.ofName? text with
  | some format => .ok format
  | none => .error .invalidValue

def put (given : Given) (value : Text) : Flag → Except UsageError Given
  | .config =>
    if given.config.isSome then .error .repeatedFlag
    else (path value).map fun config => { given with config := some config }
  | .project =>
    if given.project.isSome then .error .repeatedFlag
    else (path value).map fun project => { given with project := some project }
  | .format =>
    if given.format.isSome then .error .repeatedFlag
    else (format? value).map fun format => { given with format := some format }
  | .disable => .ok { given with disable := given.disable ++ Text.splitOn ',' value }
  | _ => .error .unexpectedValue

def turnOn (given : Given) (level : Level) : Flag → Except UsageError Given
  | .noColor => if given.noColor then .error .repeatedFlag else .ok { given with noColor := true }
  | .debug => if given.debug then .error .repeatedFlag else .ok { given with debug := true }
  | .fix => if given.fix then .error .repeatedFlag else .ok { given with fix := true }
  | .strict => if given.strict then .error .repeatedFlag else .ok { given with strict := true }
  | .long => if given.long then .error .repeatedFlag else .ok { given with long := true }
  | .help => .error .help
  | .version => .error (.version level.programName)
  | _ => .error .invalidValue

end Given

inductive Pending where
  | nothing
  | flag (flag : Flag) (value : Option Text)
  | paths (texts : List Text)
deriving DecidableEq, Repr

structure Reading where
  given : Given
  pending : Pending
  -- Whether `--` has been passed, behind which no flag is recognised.
  isTrailing : Bool
deriving DecidableEq, Repr

namespace Reading

def start : Reading := ⟨Given.nothing, .nothing, false⟩

def awaitsValue (reading : Reading) : Bool :=
  match reading.pending with
  | .flag _ none => true
  | _ => false

def settle (reading : Reading) : Except UsageError Reading :=
  match reading.pending with
  | .nothing => .ok reading
  | .flag _ none => .error .invalidValue
  | .flag flag (some value) =>
    (reading.given.put value flag).map fun given =>
      { reading with given := given, pending := .nothing }
  | .paths texts =>
    (texts.mapM Given.path).map fun paths =>
      { reading with
        given := { reading.given with paths := reading.given.paths ++ paths }, pending := .nothing }

def takeFlag (reading : Reading) (level : Level) (flag : Flag) : Except UsageError Reading := do
  let reading ← reading.settle
  let given ← reading.given.turnOn level flag
  pure { reading with given := given }

def takeAttached (reading : Reading) (flag : Flag) (value : Text) : Except UsageError Reading := do
  let reading ← reading.settle
  let given ← reading.given.put value flag
  pure { reading with given := given }

def awaitValue (reading : Reading) (flag : Flag) : Except UsageError Reading := do
  let reading ← reading.settle
  pure { reading with pending := .flag flag none }

def takeLong (reading : Reading) (level : Level) (text : Text) : Except UsageError Reading :=
  let name := text.takeWhile (· != '=')
  let value := (text.dropWhile (· != '=')).tail?
  match level.long? name, value with
  | none, _ => .error .unknownArgument
  | some flag, none =>
    if flag.takesValue then reading.awaitValue flag else reading.takeFlag level flag
  | some flag, some value =>
    if flag.takesValue then reading.takeAttached flag value else .error .unexpectedValue

def takeShort (level : Level) : Text → Reading → Except UsageError Reading
  | [], reading => .ok reading
  | c :: rest, reading =>
    match level.short? c with
    | none => .error .unknownArgument
    | some flag =>
      if flag.takesValue then
        match rest with
        | [] => reading.awaitValue flag
        | '=' :: value => reading.takeAttached flag value
        | value => reading.takeAttached flag value
      else do
        let reading ← reading.takeFlag level flag
        takeShort level rest reading

def takePositional (reading : Reading) (level : Level) (text : Text) : Except UsageError Reading :=
  match level with
  | .lint =>
    match reading.pending with
    | .paths texts => .ok { reading with pending := .paths (texts ++ [text]) }
    | _ => reading.settle.map fun reading => { reading with pending := .paths [text] }
  | .rules => .error .unknownArgument
  | .top =>
    if reading.isTrailing && ((Level.ofCommand? text).isSome || text == helpCommand) then
      .error .unknownArgument
    else .error .unknownCommand

def take (reading : Reading) (level : Level) (argument : Text) : Except UsageError Reading :=
  if reading.isTrailing then reading.takePositional level argument
  else
    match argument with
    | ['-', '-'] => .ok { reading with isTrailing := true }
    | '-' :: '-' :: text => reading.takeLong level text
    | '-' :: c :: text => takeShort level (c :: text) reading
    | text =>
      match reading.pending with
      | .flag flag none => .ok { reading with pending := .flag flag (some text) }
      | _ => reading.takePositional level text

end Reading

structure Environment where
  values : List (Text × Text)
  isTerminal : Bool
deriving DecidableEq, Repr

namespace Environment

def get? (environment : Environment) (name : Text) : Option Text :=
  (environment.values.find? (·.1 == name)).map Prod.snd

def config? (environment : Environment) : Option Text := environment.get? "GTNLINT_CONFIG"

def noColor? (environment : Environment) : Option Text := environment.get? "NO_COLOR"

def check (environment : Environment) (given : Given) : Except UsageError Unit :=
  if given.config.isNone ∧ environment.config? = some [] then .error .invalidValue
  else if given.noColor then .ok ()
  else
    match environment.noColor? with
    | none => .ok ()
    | some value =>
      if value = "true".toList ∨ value = "false".toList then .ok () else .error .invalidValue

def allowsColor (environment : Environment) : Bool :=
  (environment.isTerminal && environment.get? "CLICOLOR" != some ['0']) ||
    (environment.get? "CLICOLOR_FORCE").getD ['0'] != ['0']

end Environment

structure LintArguments where
  paths : List Path
  format : Option ReportFormat
  fix : Bool
  strict : Bool
  disable : List Text
deriving DecidableEq, Repr

inductive Command where
  | lint (arguments : LintArguments)
  | rules (long : Bool)
deriving DecidableEq, Repr

structure Invocation where
  config : Option Path
  project : Option Path
  noColor : Bool
  debug : Bool
  command : Command
deriving DecidableEq, Repr

def readAll (level : Level) (reading : Reading) (arguments : List Text) :
    Except UsageError Reading :=
  arguments.foldlM (fun reading argument => reading.take level argument) reading

def readCommand (environment : Environment) (level : Level) (arguments : List Text) :
    Except UsageError Given := do
  let reading ← readAll level Reading.start arguments
  let given := (← reading.settle).given
  environment.check given
  if level = .lint ∧ given.paths.isEmpty then throw .missingPaths
  pure given

def commandOf (level : Level) (given : Given) : Command :=
  match level with
  | .rules => .rules given.long
  | _ => .lint ⟨given.paths, given.format, given.fix, given.strict, given.disable⟩

def combine (environment : Environment) (top behind : Given) (command : Command) : Invocation where
  config := behind.config <|> top.config <|> environment.config?
  project := behind.project <|> top.project
  noColor := top.noColor || behind.noColor || environment.noColor? == some "true".toList
  debug := top.debug || behind.debug
  command := command

def helpFor (names : List Text) : UsageError :=
  match names with
  | [] => .help
  | [name] =>
    if (Level.ofCommand? name).isSome || name == helpCommand then .help else .unknownCommand
  | _ => .unknownCommand

def withoutCommand (environment : Environment) (reading : Reading) : UsageError :=
  match reading.settle with
  | .error error => error
  | .ok reading =>
    match environment.check reading.given with
    | .error error => error
    | .ok () =>
      if reading.given = Given.nothing ∧ environment.config?.isNone ∧ environment.noColor?.isNone
      then .nothingGiven
      else .missingCommand

def readTop (environment : Environment) (reading : Reading) :
    List Text → Except UsageError Invocation
  | [] => .error (withoutCommand environment reading)
  | argument :: rest =>
    let mayBeCommand := !reading.isTrailing && !reading.awaitsValue
    match mayBeCommand, Level.ofCommand? argument with
    | true, some level => do
      let behind ← readCommand environment level rest
      let top := (← reading.settle).given
      environment.check top
      pure (combine environment top behind (commandOf level behind))
    | _, _ =>
      if mayBeCommand && argument == helpCommand then .error (helpFor rest)
      else do
        let reading ← reading.take .top argument
        readTop environment reading rest

def parse (environment : Environment) (arguments : List Text) : Except UsageError Invocation :=
  readTop environment Reading.start arguments

end CourseLint.CommandLine
