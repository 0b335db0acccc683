import FeatureFlags.Yaml.Token

/-!
# Reading YAML text character by character

The state of tokenizing YAML text (`TokenStream`) and the character-level steps on it.
The text is an array of characters; reading past its end gives `'\x00'`, which stands for
the end (a NUL in the text itself is refused before reading begins).

Line breaks are CR, LF, CR LF, NEL, LS and PS. In a scalar's text CR, LF, CR LF and NEL
are read as LF, and LS and PS as themselves. The index of a mark counts bytes of the
text's UTF-8 form, while its column counts characters.
-/

namespace FeatureFlags

namespace Yaml

/-- A place where a simple key (one without `?`) may have begun. -/
structure SimpleKey where
  possible : Bool := false
  /-- Whether the key must be completed: it stands at the block indentation. -/
  required : Bool := false
  /-- The number of the token the key would be inserted before. -/
  tokenNumber : Nat := 0
  mark : Mark := {}
  deriving Repr, Inhabited

/-- The state of tokenizing YAML text. -/
structure TokenStream where
  chars : Array Char
  pos : Nat := 0
  mark : Mark := {}
  /-- Tokens found and not yet taken, the next first. -/
  queue : Array Token := #[]
  /-- The number of tokens taken. -/
  taken : Nat := 0
  /-- Whether the next token is known to be final (no simple key may precede it). -/
  available : Bool := false
  startDone : Bool := false
  endDone : Bool := false
  /-- The current block indentation, `-1` outside any block collection. -/
  indent : Int := -1
  indents : List Int := []
  simpleKeyAllowed : Bool := false
  /-- One possible simple key per flow level, the innermost last. -/
  simpleKeys : Array SimpleKey := #[]
  flowLevel : Nat := 0
  deriving Inhabited

/-- Tokenizing, which may fail with a syntax error. -/
abbrev TokenM := StateT TokenStream (Except SyntaxError)

namespace Chars

/-- A line break. -/
def isBreak (c : Char) : Bool :=
  c == '\r' || c == '\n' || c == '\x85' || c == '\u2028' || c == '\u2029'

/-- A space or a tab. -/
def isBlank (c : Char) : Bool := c == ' ' || c == '\t'

/-- The end of the text. -/
def isEnd (c : Char) : Bool := c == '\x00'

/-- A blank, a line break or the end. -/
def isBlankOrEnd (c : Char) : Bool := isBlank c || isBreak c || isEnd c

/-- A line break or the end. -/
def isBreakOrEnd (c : Char) : Bool := isBreak c || isEnd c

/-- A character of anchor names and tag handles: ASCII letters, digits, `_` and `-`. -/
def isWord (c : Char) : Bool :=
  ('0' ≤ c && c ≤ '9') || ('A' ≤ c && c ≤ 'Z') || ('a' ≤ c && c ≤ 'z') || c == '_' || c == '-'

/-- An ASCII digit. -/
def isDigit (c : Char) : Bool := '0' ≤ c && c ≤ '9'

/-- An ASCII hexadecimal digit. -/
def isHex (c : Char) : Bool :=
  isDigit c || ('A' ≤ c && c ≤ 'F') || ('a' ≤ c && c ≤ 'f')

/-- The value of a hexadecimal digit. -/
def hexValue (c : Char) : Nat :=
  if isDigit c then c.toNat - '0'.toNat
  else if 'A' ≤ c && c ≤ 'F' then c.toNat - 'A'.toNat + 10
  else c.toNat - 'a'.toNat + 10

/-- A character allowed in YAML text: tab, line feed, carriage return, printable ASCII,
    NEL and the printable rest of Unicode without surrogates and the two non-characters
    U+FFFE and U+FFFF. -/
def isAllowed (c : Char) : Bool :=
  let n := c.toNat
  n == 0x09 || n == 0x0A || n == 0x0D || (0x20 ≤ n && n ≤ 0x7E) || n == 0x85 ||
    (0xA0 ≤ n && n ≤ 0xD7FF) || (0xE000 ≤ n && n ≤ 0xFFFD) || (0x10000 ≤ n && n ≤ 0x10FFFF)

end Chars

namespace TokenStream

/-- The stream over a text. -/
def ofString (text : String) : TokenStream :=
  let chars := text.toList.toArray
  { chars := if chars[0]? == some '\uFEFF' then chars.extract 1 chars.size else chars }

/-- The character `k` places ahead. -/
def charAt (s : TokenStream) (k : Nat) : Char := s.chars.getD (s.pos + k) '\x00'

/-- Enough steps for any loop over the rest of the text. -/
def budget (s : TokenStream) : Nat := s.chars.size - s.pos + 2

end TokenStream

/-- The character `k` places ahead. -/
def peekAt (k : Nat) : TokenM Char := do return (← get).charAt k

/-- The current character. -/
def peekChar : TokenM Char := peekAt 0

/-- Enough steps for any loop over the rest of the text. -/
def loopBudget : TokenM Nat := do return (← get).budget

/-- The current mark. -/
def currentMark : TokenM Mark := do return (← get).mark

/-- Passes over one character of a line. -/
def skipChar : TokenM Unit :=
  modify fun s =>
    { s with pos := s.pos + 1,
             mark := { s.mark with index := s.mark.index + (s.charAt 0).utf8Size,
                                   column := s.mark.column + 1 } }

/-- Passes over a line break, if there is one. -/
def skipBreak : TokenM Unit :=
  modify fun s =>
    if s.charAt 0 == '\r' && s.charAt 1 == '\n' then
      { s with pos := s.pos + 2, mark := ⟨s.mark.index + 2, s.mark.line + 1, 0⟩ }
    else if Chars.isBreak (s.charAt 0) then
      { s with pos := s.pos + 1, mark := ⟨s.mark.index + (s.charAt 0).utf8Size, s.mark.line + 1, 0⟩ }
    else s

/-- Reads one character of a line onto a text. -/
def readChar (acc : String) : TokenM String := do
  let c ← peekChar
  skipChar
  return acc.push c

/-- Reads a line break onto a text: LS and PS as themselves, the others as LF. -/
def readBreak (acc : String) : TokenM String := do
  let c ← peekChar
  if c == '\u2028' || c == '\u2029' then
    skipBreak
    return acc.push c
  else if Chars.isBreak c then
    skipBreak
    return acc.push '\n'
  else return acc

/-- Passes over blanks. -/
def skipBlanks : TokenM Unit := do
  for _ in [0:← loopBudget] do
    if !Chars.isBlank (← peekChar) then break
    skipChar

/-- Passes over the rest of a line, which is a comment. -/
def skipToBreak : TokenM Unit := do
  for _ in [0:← loopBudget] do
    if Chars.isBreakOrEnd (← peekChar) then break
    skipChar

/-- Fails with a problem met in a construct. -/
def failIn (context : String) (contextMark : Mark) (problem : String) : TokenM α := do
  throw { problem, mark := (← get).mark, context := some (context, contextMark) }

/-- Fails with a problem at the current mark. -/
def failHere (problem : String) : TokenM α := do
  throw { problem, mark := (← get).mark }

end Yaml

end FeatureFlags
