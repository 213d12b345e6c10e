/-!
# Tokens of YAML

A stream of YAML text is a list of tokens, which `scan` reads off.
-/

namespace Fleet.Yaml

/-- How a scalar is written. -/
inductive Style where
  | plain | singleQuoted | doubleQuoted | literal | folded
  deriving DecidableEq, Repr

/-- A token. Block collections open and close by indentation, flow collections by brackets. -/
inductive Token where
  | streamEnd
  | version (major minor : Nat)
  | tagPrefix (handle lead : String)
  | documentStart
  | documentEnd
  | blockSequence
  | blockMapping
  | blockEnd
  | flowSequence
  | flowSequenceEnd
  | flowMapping
  | flowMappingEnd
  | blockEntry
  | flowEntry
  | key
  | value
  | alias (name : String)
  | anchor (name : String)
  | tag (handle suffix : String)
  | scalar (text : String) (style : Style)
  deriving DecidableEq, Repr

end Fleet.Yaml
