import SuiteAudit.Yaml.Fault
/-!
# YAML — tokens

The indicators and scalars of a text in order. Tokens that have no character of
their own mark where block collections begin and end, and where the key of a
mapping turned out to begin.
-/

namespace SuiteAudit.Yaml

/-- What a token is. -/
inductive TokenKind where
  | version (major minor : Nat)
  | tagHandle (handle lead : List Char)
  | documentStart
  | documentEnd
  | streamEnd
  | blockSequenceStart
  | blockMappingStart
  | blockEnd
  | flowSequenceStart
  | flowSequenceEnd
  | flowMappingStart
  | flowMappingEnd
  | blockEntry
  | flowEntry
  | key
  | value
  | aliasOf (name : List Char)
  | anchor (name : List Char)
  | tag (handle text : List Char)
  | scalar (text : List Char) (plain : Bool)
deriving Repr, DecidableEq, Inhabited

/-- A token and where it begins. -/
structure Token where
  kind : TokenKind
  mark : Mark
deriving Repr, DecidableEq, Inhabited

end SuiteAudit.Yaml
