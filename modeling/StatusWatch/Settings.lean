import StatusWatch.Duration
import StatusWatch.Json.Printer
import StatusWatch.Json.Record
import StatusWatch.Session

/-!
Settings that hold for every run, and the JSON record they are kept in. Overrides are kept as they
are written, and their conditions are checked when they are used.
-/

namespace StatusWatch

structure Settings where
  context : Option String
  pollInterval : Duration
  useSnapshot : Bool
  timeout : Duration
  /-- Ask the server which kinds it serves. -/
  discovery : Bool
  overrides : List Override
  deriving Repr

namespace Settings

def default : Settings where
  context := none
  pollInterval := .ofSeconds 2
  useSnapshot := true
  timeout := .ofSeconds 600
  discovery := false
  overrides := []

def fieldNames : List String :=
  ["context", "poll_interval", "use_cache", "timeout", "discovery", "overrides"]

def optionalText? : Spelled → Option (Option String)
  | .null => some none
  | .str s => s.map some
  | _ => none

def duration? (value : Spelled) : Option Duration :=
  value.string?.bind Duration.parse?

def override? (value : Spelled) : Option Override := do
  match ← value.record? ["group", "kind", "condition"] with
  | [group, kind, condition] =>
    let group ← Spelled.orDefault Spelled.string? "" group
    let kind ← Spelled.required Spelled.string? kind
    let condition ← Spelled.required Spelled.string? condition
    some ⟨⟨group, kind⟩, ⟨condition⟩⟩
  | _ => none

def overrides? (value : Spelled) : Option (List Override) := do
  (← value.items?).mapM override?

def parse? (text : String) : Option Settings := do
  match ← (← Spelled.read? text).record? fieldNames with
  | [context, pollInterval, useSnapshot, timeout, discovery, overrides] =>
    let context ← Spelled.orDefault optionalText? default.context context
    let pollInterval ← Spelled.orDefault duration? default.pollInterval pollInterval
    let useSnapshot ← Spelled.orDefault Spelled.flag? default.useSnapshot useSnapshot
    let timeout ← Spelled.orDefault duration? default.timeout timeout
    let discovery ← Spelled.orDefault Spelled.flag? default.discovery discovery
    let overrides ← Spelled.orDefault overrides? default.overrides overrides
    some { context, pollInterval, useSnapshot, timeout, discovery, overrides }
  | _ => none

def ofText (path text : String) : Except Failure Settings :=
  match parse? text with
  | some s => .ok s
  | none => .error (.because s!"Failed to parse config file: {path}" none)

def overrideRecord (o : Override) : Json :=
  .obj [("group", .str o.target.group), ("kind", .str o.target.kind),
    ("condition", .str o.condition.text)]

def toJson (s : Settings) : Json :=
  .obj [
    ("context", match s.context with | some c => .str c | none => .null),
    ("poll_interval", .str s.pollInterval.toText),
    ("use_cache", .bool s.useSnapshot),
    ("timeout", .str s.timeout.toText),
    ("discovery", .bool s.discovery),
    ("overrides", .arr (s.overrides.map overrideRecord))]

def toText (s : Settings) : String :=
  s.toJson.pretty

def checkedOverrides (s : Settings) : Except Failure (List Override) :=
  s.overrides.mapM fun o =>
    match o.condition.compile with
    | .ok _ => .ok o
    | .error e => .error (.because s!"Invalid override for {o.target.kind}" (some e))

end Settings

end StatusWatch
