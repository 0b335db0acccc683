import FeatureFlags.Json.Write
import FeatureFlags.Text.Escaped

/-!
# JSON reading errors

A reading error is a syntax error, found at a byte of the text, or a data error (a value
of the wrong kind or length, a field missing or repeated), which is raised where the value
was read and placed at the end of the enclosing value. Positions are a line, counted from
one, and a column, the number of bytes read since the last newline.

* `JsonError.message`: the text of an error, `… at line L column C`;
* `Unexpected.describe`: how a value of the wrong kind is named in a data error.
-/

namespace FeatureFlags

/-- What went wrong while reading JSON text. -/
inductive JsonErrorCode where
  | eofWhileParsingList
  | eofWhileParsingObject
  | eofWhileParsingString
  | eofWhileParsingValue
  | expectedColon
  | expectedListCommaOrEnd
  | expectedObjectCommaOrEnd
  | expectedSomeIdent
  | expectedSomeValue
  | invalidEscape
  | invalidNumber
  | numberOutOfRange
  | invalidUnicodeCodePoint
  | controlCharacterWhileParsingString
  | keyMustBeAString
  | loneLeadingSurrogateInHexEscape
  | trailingComma
  | trailingCharacters
  | unexpectedEndOfHexEscape
  | recursionLimitExceeded
  /-- A data error: the value read does not fit what was expected. -/
  | data (message : String)
  deriving Repr, DecidableEq

/-- The text of an error code. -/
def JsonErrorCode.text : JsonErrorCode → String
  | .eofWhileParsingList => "EOF while parsing a list"
  | .eofWhileParsingObject => "EOF while parsing an object"
  | .eofWhileParsingString => "EOF while parsing a string"
  | .eofWhileParsingValue => "EOF while parsing a value"
  | .expectedColon => "expected `:`"
  | .expectedListCommaOrEnd => "expected `,` or `]`"
  | .expectedObjectCommaOrEnd => "expected `,` or `\x7d`"
  | .expectedSomeIdent => "expected ident"
  | .expectedSomeValue => "expected value"
  | .invalidEscape => "invalid escape"
  | .invalidNumber => "invalid number"
  | .numberOutOfRange => "number out of range"
  | .invalidUnicodeCodePoint => "invalid unicode code point"
  | .controlCharacterWhileParsingString =>
    "control character (\\u0000-\\u001F) found while parsing a string"
  | .keyMustBeAString => "key must be a string"
  | .loneLeadingSurrogateInHexEscape => "lone leading surrogate in hex escape"
  | .trailingComma => "trailing comma"
  | .trailingCharacters => "trailing characters"
  | .unexpectedEndOfHexEscape => "unexpected end of hex escape"
  | .recursionLimitExceeded => "recursion limit exceeded"
  | .data message => message

/-- A reading error and where it stands; a data error has no place until the value
    around it is finished. -/
structure JsonError where
  code : JsonErrorCode
  position : Option (Nat × Nat)
  deriving Repr, DecidableEq

/-- The text of a reading error. -/
def JsonError.message (e : JsonError) : String :=
  match e.position with
  | some (line, column) => s!"{e.code.text} at line {line} column {column}"
  | none => e.code.text

/-- A value of the wrong kind, as a data error names it. -/
inductive Unexpected where
  | null
  | bool (b : Bool)
  | unsigned (n : Nat)
  | signed (n : Int)
  | float (f : Float)
  | string (s : String)
  | sequence
  | map

/-- How a data error names a value of the wrong kind. -/
def Unexpected.describe : Unexpected → String
  | .null => "null"
  | .bool b => s!"boolean `{b}`"
  | .unsigned n => s!"integer `{n}`"
  | .signed n => s!"integer `{n}`"
  | .float f => "floating point `" ++ Json.floatText f ++ "`"
  | .string s => "string " ++ Escaped.quote s
  | .sequence => "sequence"
  | .map => "map"

/-- The data error for a value of the wrong kind. -/
def JsonErrorCode.invalidType (u : Unexpected) (expected : String) : JsonErrorCode :=
  .data s!"invalid type: {u.describe}, expected {expected}"

/-- The data error for a value of the right kind but out of range. -/
def JsonErrorCode.invalidValue (u : Unexpected) (expected : String) : JsonErrorCode :=
  .data s!"invalid value: {u.describe}, expected {expected}"

end FeatureFlags
