/-!
The tokens of YAML. Blocks are bracketed by tokens for their start and end, as flow collections
are by their brackets, and each key of a mapping has a `key` before it.
-/

namespace StatusWatch.Yaml

inductive Token where
  | version (major minor : Nat)
  | tagShorthand (handle stem : String)
  | documentStart
  | documentEnd
  | blockSequence
  | blockMapping
  | blockEnd
  | flowSequence
  | flowSequenceEnd
  | flowMapping
  | flowMappingEnd
  | blockEntry
  | flowEntry
  | key
  | value
  | alias (name : String)
  | anchor (name : String)
  | tag (handle suffix : String)
  | scalar (text : String) (plain : Bool)
  | streamEnd
  /-- The text cannot be read on. -/
  | fault
  deriving DecidableEq, Repr, Inhabited

end StatusWatch.Yaml
