import FeatureFlags.Yaml.Mark

/-!
# YAML tokens

The tokens of YAML text, each with the marks where it starts and ends. Block structure
is made explicit: a block collection opens with `blockSequenceStart` or
`blockMappingStart` where its indentation begins and closes with `blockEnd` where it
ends; a mapping key is announced by `key` and its value by `value`.
-/

namespace FeatureFlags

namespace Yaml

/-- How a scalar is written. -/
inductive ScalarStyle where
  | plain
  | singleQuoted
  | doubleQuoted
  | literal
  | folded
  deriving Repr, DecidableEq, Inhabited

/-- The kinds of YAML tokens. -/
inductive TokenKind where
  | streamStart
  | streamEnd
  | versionDirective (major minor : Nat)
  | tagDirective (handle pfx : String)
  | documentStart
  | documentEnd
  | blockSequenceStart
  | blockMappingStart
  | blockEnd
  | flowSequenceStart
  | flowSequenceEnd
  | flowMappingStart
  | flowMappingEnd
  | blockEntry
  | flowEntry
  | key
  | value
  | alias (name : String)
  | anchor (name : String)
  | tag (handle suffix : String)
  | scalar (text : String) (style : ScalarStyle)
  deriving Repr, Inhabited

/-- A token with the marks where it starts and ends. -/
structure Token where
  kind : TokenKind
  start : Mark
  stop : Mark
  deriving Repr, Inhabited

namespace TokenKind

/-- Whether a token kind is `blockEntry`. -/
def isBlockEntry : TokenKind → Bool
  | .blockEntry => true
  | _ => false

/-- Whether a token kind is `blockEnd`. -/
def isBlockEnd : TokenKind → Bool
  | .blockEnd => true
  | _ => false

/-- Whether a token kind is `key`. -/
def isKey : TokenKind → Bool
  | .key => true
  | _ => false

/-- Whether a token kind is `value`. -/
def isValue : TokenKind → Bool
  | .value => true
  | _ => false

/-- Whether a token kind is `flowEntry`. -/
def isFlowEntry : TokenKind → Bool
  | .flowEntry => true
  | _ => false

/-- Whether a token kind is `flowSequenceEnd`. -/
def isFlowSequenceEnd : TokenKind → Bool
  | .flowSequenceEnd => true
  | _ => false

/-- Whether a token kind is `flowMappingEnd`. -/
def isFlowMappingEnd : TokenKind → Bool
  | .flowMappingEnd => true
  | _ => false

/-- Whether a token kind is `streamEnd`. -/
def isStreamEnd : TokenKind → Bool
  | .streamEnd => true
  | _ => false

/-- Whether a token kind is `documentStart`. -/
def isDocumentStart : TokenKind → Bool
  | .documentStart => true
  | _ => false

/-- Whether a token kind is `documentEnd`. -/
def isDocumentEnd : TokenKind → Bool
  | .documentEnd => true
  | _ => false

/-- Whether a token kind is a directive. -/
def isDirective : TokenKind → Bool
  | .versionDirective _ _ => true
  | .tagDirective _ _ => true
  | _ => false

end TokenKind

end Yaml

end FeatureFlags
