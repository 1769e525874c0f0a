import StatusWatch.CommandLine.Options
import StatusWatch.Duration
import StatusWatch.Override
import StatusWatch.Report

/-!
The command line: `status`, `wait` and `config`, each with its options, and two options that may
stand before the command too. What stands behind the command wins over what stands before it, and
both win over the environment.
-/

namespace StatusWatch

namespace CommandLine

structure Sources where
  paths : List String
  crds : List String
  crdsFromCluster : Bool
  deriving DecidableEq, Repr

structure StatusCommand where
  sources : Sources
  format : Report.Format
  headers : Bool
  wide : Bool
  deriving DecidableEq, Repr

structure WaitCommand where
  sources : Sources
  interval : Option Duration
  timeout : Option Duration
  noCache : Bool
  overrides : List Override
  status : Status
  deriving DecidableEq, Repr

inductive Command where
  | status (command : StatusCommand)
  | wait (command : WaitCommand)
  | config
  deriving DecidableEq, Repr

structure Invocation where
  command : Command
  context : Option String
  verbose : Bool
  deriving DecidableEq, Repr

/-- Arguments while they are read; what has not been given is absent or false. -/
structure Arguments where
  context : Option String
  verbose : Bool
  paths : List String
  crds : List String
  crdsFromCluster : Bool
  format : Option Report.Format
  noHeaders : Bool
  wide : Bool
  interval : Option Duration
  timeout : Option Duration
  noCache : Bool
  overrides : List Override
  status : Option Status

def Arguments.none : Arguments :=
  ⟨.none, false, [], [], false, .none, false, false, .none, .none, false, [], .none⟩

def flag (long : String) (letter : Option Char) (get : Arguments → Bool)
    (set : Arguments → Arguments) : CliOption Arguments where
  long
  letter
  arity := .none
  apply _ a := if get a then .error .conflict else .ok (set a)

def single (long : String) (letter : Option Char) (get : Arguments → Option β)
    (read : String → Except Refusal β) (set : Arguments → β → Arguments) :
    CliOption Arguments where
  long
  letter
  arity := .one
  apply values a :=
    match get a, values with
    | some _, _ => .error .conflict
    | _, value :: _ => (read value).map (set a)
    | _, [] => .error .invalidValue

def repeated (long : String) (letter : Option Char) (arity : Arity)
    (read : String → Except Refusal β) (add : Arguments → List β → Arguments) :
    CliOption Arguments where
  long
  letter
  arity
  apply values a := (values.mapM read).map (add a)

def wish (long : String) (letter : Char) (refusal : Refusal) : CliOption Arguments :=
  ⟨long, some letter, .none, fun _ _ => .error refusal⟩

def readText (text : String) : Except Refusal String :=
  .ok text

def readPath (text : String) : Except Refusal String :=
  if text = "" then .error .invalidValue else .ok text

def readFormat (text : String) : Except Refusal Report.Format :=
  match text with
  | "table" => .ok .table
  | "json" => .ok .json
  | "yaml" => .ok .yaml
  | _ => .error .invalidValue

def readDuration (text : String) : Except Refusal Duration :=
  match Duration.parse? text with
  | some d => .ok d
  | none => .error .unreadableValue

def readOverride (text : String) : Except Refusal Override :=
  match Override.parse text with
  | .ok o => .ok o
  | .error _ => .error .unreadableValue

def commonOptions : List (CliOption Arguments) := [
  single "context" (some 'c') Arguments.context readText fun a context =>
    { a with context := some context },
  flag "verbose" (some 'v') Arguments.verbose fun a => { a with verbose := true },
  wish "help" 'h' .helpWanted]

def mainOptions : List (CliOption Arguments) :=
  wish "version" 'V' .versionWanted :: commonOptions

def sourceOptions : List (CliOption Arguments) := [
  repeated "filename" (some 'f') .oneOrMore readPath fun a paths =>
    { a with paths := a.paths ++ paths },
  repeated "crds" none .one readPath fun a crds => { a with crds := a.crds ++ crds },
  flag "crds-from-cluster" none Arguments.crdsFromCluster fun a =>
    { a with crdsFromCluster := true }]

def statusOptions : List (CliOption Arguments) :=
  commonOptions ++ sourceOptions ++ [
    single "output" (some 'o') Arguments.format readFormat fun a format =>
      { a with format := some format },
    flag "no-headers" none Arguments.noHeaders fun a => { a with noHeaders := true },
    flag "wide" (some 'w') Arguments.wide fun a => { a with wide := true }]

def waitOptions : List (CliOption Arguments) :=
  commonOptions ++ sourceOptions ++ [
    single "interval" none Arguments.interval readDuration fun a d => { a with interval := some d },
    single "timeout" none Arguments.timeout readDuration fun a d => { a with timeout := some d },
    flag "no-cache" none Arguments.noCache fun a => { a with noCache := true },
    repeated "override" none .one readOverride fun a overrides =>
      { a with overrides := a.overrides ++ overrides },
    single "status" none Arguments.status readText fun a status =>
      { a with status := some status }]

/-- Reads the words behind a command's name, all of which belong to options. -/
def readAll (options : List (CliOption Arguments)) (argv : List String) :
    Except Refusal Arguments := do
  let (scan, _) ← words options [] (.start .none) argv
  let scan ← scan.settle
  .ok scan.arguments

def sources (a : Arguments) : Except Refusal Sources :=
  if a.paths.isEmpty then .error .missingOption
  else .ok ⟨a.paths, a.crds, a.crdsFromCluster⟩

def statusCommand (a : Arguments) : Except Refusal Command := do
  let sources ← sources a
  .ok (.status ⟨sources, a.format.getD .table, !a.noHeaders, a.wide⟩)

def waitCommand (a : Arguments) : Except Refusal Command := do
  let sources ← sources a
  .ok (.wait ⟨sources, a.interval, a.timeout, a.noCache, a.overrides, a.status.getD .current⟩)

def readCommand (name : String) (argv : List String) : Except Refusal (Command × Arguments) := do
  match name with
  | "status" =>
    let a ← readAll statusOptions argv
    .ok (← statusCommand a, a)
  | "wait" =>
    let a ← readAll waitOptions argv
    .ok (← waitCommand a, a)
  | _ =>
    let a ← readAll commonOptions argv
    .ok (.config, a)

def commandNames : List String :=
  ["status", "wait", "config"]

def helpOn : List String → Refusal
  | [] => .helpWanted
  | [name] => if name ∈ commandNames ∨ name = "help" then .helpWanted else .unknownCommand
  | _ => .unknownCommand

/-- Reads the words behind the program's name. `fallback` is the context that the environment
names. -/
def parse (fallback : Option String) (argv : List String) : Except Refusal Invocation := do
  let (scan, stop) ← words mainOptions ("help" :: commandNames) (.start .none) argv
  match stop with
  | none =>
    let a := (← scan.settle).arguments
    if a.context.isNone ∧ !a.verbose ∧ fallback.isNone then .error .empty else .error .noCommand
  | some ("help", rest) => .error (helpOn rest)
  | some (name, rest) =>
    let (command, inner) ← readCommand name rest
    let outer := (← scan.settle).arguments
    .ok ⟨command, (inner.context.or outer.context).or fallback, inner.verbose || outer.verbose⟩

end CommandLine

end StatusWatch
