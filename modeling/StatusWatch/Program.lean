import StatusWatch.Command

/-!
The program from its arguments to its exit. Its data are kept in one directory below the home
directory: the settings, and a log.
-/

namespace StatusWatch

structure Exit where
  code : Nat
  stdout : String
  stderr : String
  /-- A log was kept. -/
  logged : Bool
  /-- Time spent between ticks, in nanoseconds. -/
  waited : Nat
  deriving DecidableEq, Repr

namespace Program

def name : String := "k8status"

def version : String := "0.1.0"

def dataPath (home : String) : String :=
  FileTree.join home ".k8status"

def settingsPath (home : String) : String :=
  FileTree.join (dataPath home) "config.json"

def logDirectory (home : String) : String :=
  FileTree.join (dataPath home) "log"

def logPath (home : String) : String :=
  FileTree.join (logDirectory home) "k8status.log"

def usage : String :=
  let commands := ", ".intercalate CommandLine.commandNames
  s!"Usage: {name} [OPTIONS] <COMMAND>\n\nCommands: {commands}\n"

def refusalText : CommandLine.Refusal → String
  | .unknownArgument => "error: unexpected argument\n"
  | .unknownCommand => "error: unrecognized subcommand\n"
  | .noCommand => "error: a subcommand is required\n"
  | .invalidValue => "error: a value is missing or not allowed\n"
  | .unreadableValue => "error: a value cannot be read\n"
  | .conflict => "error: an argument cannot be used multiple times\n"
  | .unwantedValue => "error: unexpected value\n"
  | .missingOption => "error: a required argument was not provided\n"
  | .empty | .helpWanted => usage
  | .versionWanted => s!"{name} {version}\n"

/-- Only wishes end well. -/
def refused (r : CommandLine.Refusal) : Exit :=
  match r with
  | .helpWanted | .versionWanted => ⟨0, refusalText r, "", false, 0⟩
  | _ => ⟨2, "", refusalText r, false, 0⟩

def logFault? (look : String → Option FileTree) (home : String) : Option String :=
  let blocked (path : String) : Bool := (look path).any (!·.isDirectory)
  if blocked (dataPath home) then
    some "Could not create log directory: Not a directory (os error 20)"
  else if blocked (logDirectory home) then
    some "Could not create log directory: File exists (os error 17)"
  else if (look (logPath home)).any FileTree.isDirectory then
    some "Could not create log file: Is a directory (os error 21)"
  else none

def ownPaths (home : String) : List String :=
  [dataPath home, settingsPath home, logDirectory home, logPath home]

def namedPaths (argv : List String) : List String :=
  match CommandLine.parse none argv with
  | .ok ⟨.status c, _, _⟩ => c.sources.paths ++ c.sources.crds
  | .ok ⟨.wait c, _, _⟩ => c.sources.paths ++ c.sources.crds
  | _ => []

def settings (look : String → Option FileTree) (path : String) : Except Failure Settings :=
  match look path with
  | none => .ok .default
  | some found =>
    match found.text? with
    | none => .error (.because s!"Failed to read config file: {path}" none)
    | some text => Settings.ofText path text

def failureText : Failure → String
  | .because text (some e) => s!"Error: {text}\n\nCaused by:\n    {e.message}\n"
  | f => s!"Error: {f.message}\n"

def perform (around : Surroundings) (path : String) (i : CommandLine.Invocation) :
    Client.Exchange CommandLine.Printed :=
  match settings around.look path with
  | .error f => pure (.ofFailure f)
  | .ok settings => i.command.run around path settings i.context

/-- Runs the program. `context` is the one that the environment names. -/
def run (around : Surroundings) (home : String) (context : Option String) (argv : List String) :
    Client.Exchange Exit := do
  match CommandLine.parse context argv with
  | .error r => pure (refused r)
  | .ok i =>
    let fault := logFault? around.look home
    let complaint := (fault.map fun fault => s!"Warning: {fault}\n").getD ""
    let printed ← perform around (settingsPath home) i
    let failed := (printed.failure.map failureText).getD ""
    pure {
      code := if printed.failure.isSome then 1 else 0
      stdout := printed.stdout
      stderr := complaint ++ printed.stderr ++ failed
      logged := fault.isNone
      waited := printed.waited }

end Program

end StatusWatch
