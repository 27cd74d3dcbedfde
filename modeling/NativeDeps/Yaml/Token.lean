import NativeDeps.Yaml.Tag

/-!
# Tokens

The words and marks of a YAML text, with the nesting that its indentation means
made visible as opening and closing tokens.
-/

namespace NativeDeps.Yaml

/-- What a line that begins with a percent sign asks for. -/
inductive Directive
  | version (major minor : Nat)
  | tag (handle leading : String)
  | other
deriving Repr, DecidableEq

/-- A word or mark of a YAML text. -/
inductive Token
  | directive (directive : Directive)
  | documentStart
  | documentEnd
  | textEnd
  | blockListStart
  | blockMappingStart
  | blockEnd
  | flowListStart
  | flowListEnd
  | flowMappingStart
  | flowMappingEnd
  | entry
  | flowEntry
  | key
  | value
  | reference (name : String)
  | anchor (name : String)
  | tag (handle : Option String) (suffix : String)
  | scalar (content : Content) (isPlain : Bool)
deriving Repr, DecidableEq

end NativeDeps.Yaml
