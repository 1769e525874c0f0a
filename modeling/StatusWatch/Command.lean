import StatusWatch.Report.Render
import StatusWatch.Session.Connection
import StatusWatch.Wait

/-!
The commands. `status` prints one report of all resources, and a warning for each that could not be
read. `wait` watches them, prints how far they have come in any case, and succeeds if all have
arrived.
-/

namespace StatusWatch.CommandLine

structure Printed where
  stdout : String
  stderr : String
  failure : Option Failure
  /-- Time spent between ticks, in nanoseconds. -/
  waited : Nat

namespace Printed

def text (stdout : String) : Printed :=
  ⟨stdout, "", none, 0⟩

def ofFailure (f : Failure) : Printed :=
  ⟨"", "", some f, 0⟩

/-- What was printed, or the failure that came before anything was. -/
def ofExcept : Except Failure Printed → Printed
  | .ok printed => printed
  | .error f => ofFailure f

end Printed

def warning (s : ResourceStatus) : String :=
  s!"Warning: {s.id.toText}: {s.message}\n"

def warnings (statuses : List ResourceStatus) : String :=
  String.join ((statuses.filter (·.error.isSome)).map warning)

namespace StatusCommand

def options (settings : Settings) (overrides : List Override) : WatchOptions where
  interval := Settings.default.pollInterval.toNanoseconds
  useSnapshot := settings.useSnapshot
  reportUnchanged := true
  overrides

def run (c : StatusCommand) (around : Surroundings) (settings : Settings)
    (context : Option String) : ExceptT Failure Client.Exchange Printed := do
  let session ← Session.connect around settings context c.sources
  let overrides ← Session.offline settings.checkedOverrides
  let statuses ← ExceptT.mk (session.readStatuses (options settings overrides))
  let report := (Report.ofStatuses statuses c.wide).render c.format c.headers
  pure { Printed.text (report ++ "\n") with stderr := warnings statuses }

end StatusCommand

namespace WaitCommand

def patience (c : WaitCommand) (settings : Settings) : Duration :=
  c.timeout.getD settings.timeout

/-- Overrides on the command line come after those in the settings. -/
def options (c : WaitCommand) (settings : Settings) (overrides : List Override) :
    WatchOptions where
  interval := (c.interval.getD settings.pollInterval).toNanoseconds
  useSnapshot := settings.useSnapshot && !c.noCache
  reportUnchanged := false
  overrides := overrides ++ c.overrides

def listed (ids : List ObjectId) : String :=
  ", ".intercalate (ids.map ObjectId.toText)

def failure? (c : WaitCommand) (settings : Settings) (outcome : Wait.Outcome) : Option Failure :=
  let text? : Option String :=
    match outcome.ending with
    | .reached => none
    | .failed => some s!"Resources failed: {listed (outcome.progress.failed.map (·.id))}"
    | .timedOut =>
      let pending := listed (outcome.progress.pending c.status)
      some s!"Timed out after {(c.patience settings).toText} waiting for: {pending}"
    | .stopped => some "Status poller stopped unexpectedly"
  text?.map fun text => .because text none

def waited (interval timeout : Nat) (outcome : Wait.Outcome) : Nat :=
  match outcome.ending with
  | .timedOut => timeout
  | _ => (outcome.ticks - 1) * interval

def run (c : WaitCommand) (around : Surroundings) (settings : Settings)
    (context : Option String) : ExceptT Failure Client.Exchange Printed := do
  let session ← Session.connect around settings context c.sources
  let overrides ← Session.offline settings.checkedOverrides
  let options := c.options settings overrides
  let timeout := (c.patience settings).toNanoseconds
  let outcome ← ExceptT.lift (Wait.run session c.status options timeout)
  let report := (Report.ofStatuses outcome.progress.statuses true).toTable true
  pure ⟨report ++ "\n", "", c.failure? settings outcome, waited options.interval timeout outcome⟩

end WaitCommand

namespace Command

/-- `settingsPath` is where the settings are kept. -/
def run (c : Command) (around : Surroundings) (settingsPath : String) (settings : Settings)
    (context : Option String) : Client.Exchange Printed :=
  match c with
  | .status c => Printed.ofExcept <$> (c.run around settings context).run
  | .wait c => Printed.ofExcept <$> (c.run around settings context).run
  | .config => pure (.text s!"# {settingsPath}\n{settings.toText}\n")

end Command

end StatusWatch.CommandLine
