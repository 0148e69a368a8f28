/-!
# The tokens of a YAML text
-/

namespace FaultGate.Yaml

/-- A token. The tokens that open and close block collections, and the one before a key that is
not marked in the text, are put in where the indentation or a later colon shows that they
belong. -/
inductive Token where
  | versionDirective (major minor : Nat)
  | tagDirective (handle expansion : String)
  | documentStart
  | documentEnd
  | blockSequenceStart
  | blockMappingStart
  | blockEnd
  | flowSequenceStart
  | flowSequenceEnd
  | flowMappingStart
  | flowMappingEnd
  | blockEntry
  | flowEntry
  | key
  | value
  | aliasOf (name : String)
  | anchor (name : String)
  | tag (handle suffix : String)
  | scalar (text : String) (plain : Bool)
  | endOfText
  /-- What comes next in the text begins no token, or one that is not completed. -/
  | malformed
  deriving DecidableEq, Repr

end FaultGate.Yaml
