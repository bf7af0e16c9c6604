import Scriptlet.Yaml.Fault

/-! The tokens of a YAML text. -/
namespace Scriptlet.Yaml

inductive Token
  | streamEnd
  | version (major minor : Nat)
  | documentStart
  | documentEnd
  | sequenceStart
  | mappingStart
  | blockEnd
  | flowSequenceStart
  | flowSequenceEnd
  | flowMappingStart
  | flowMappingEnd
  | blockEntry
  | flowEntry
  | key
  | value
  /-- The mark of a scalar that holds bytes in base 64. -/
  | binaryMark
  | scalar (quoted : Bool) (text : String)
deriving DecidableEq, Repr

structure PlacedToken where
  token : Token
  place : Place

end Scriptlet.Yaml
