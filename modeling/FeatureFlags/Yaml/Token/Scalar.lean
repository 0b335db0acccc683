import FeatureFlags.Yaml.Token.Chars
import FeatureFlags.Text.Utf8

/-!
# Scalars, anchors, tags and directives

The tokens that carry text, read from their first character on:

* plain scalars end at `: `, at ` #`, at a document marker at the start of a line, below
  the block indentation, and in flow context at `,`, `[`, `]`, `{` and `}`; in flow context
  a `:` before one of `,?[]{}` inside a plain scalar is an error; their lines are folded
  (one break to a space, more breaks kept);
* quoted scalars fold their lines the same way; single quotes escape a quote by doubling
  it, double quotes have backslash escapes (`\x`, `\u` and `\U` take 2, 4 and 8
  hexadecimal digits), and a backslash before a break joins the lines;
* block scalars (`|` literal, `>` folded) take their indentation from an indicator or from
  their first non-empty line, and their chomping indicator (`-` strip, `+` keep, else
  clip) decides the final breaks;
* anchors and aliases are names of letters, digits, `_` and `-`;
* tags are `!<uri>`, `!handle!suffix` or `!suffix`, with `%xx` escapes in the URI;
* directives are `%YAML major.minor` and `%TAG handle prefix`.
-/

namespace FeatureFlags

namespace Yaml

/-- Whether a document marker (`---` or `...` before a blank) stands at the current place,
    which must be the start of a line. -/
def atDocumentMarker (s : TokenStream) : Bool :=
  s.mark.column == 0 &&
    ((s.charAt 0 == '-' && s.charAt 1 == '-' && s.charAt 2 == '-') ||
      (s.charAt 0 == '.' && s.charAt 1 == '.' && s.charAt 2 == '.')) &&
    Chars.isBlankOrEnd (s.charAt 3)

/-- Joins the blanks between two parts of a folded scalar onto its text: a single line
    break becomes a space, further breaks are kept, and blanks within a line are kept. -/
def joinFolded (text leadingBreak trailingBreaks whitespaces : String) (leadingBlanks : Bool) :
    String :=
  if leadingBlanks then
    if leadingBreak.startsWith "\n" then
      if trailingBreaks.isEmpty then text.push ' ' else text ++ trailingBreaks
    else text ++ leadingBreak ++ trailingBreaks
  else text ++ whitespaces

/-- Reads a plain scalar. Afterwards a simple key may follow if the scalar ended on a
    line break. -/
def scanPlainScalar : TokenM Token := do
  let s ← get
  let indent : Int := s.indent + 1
  let startMark := s.mark
  let mut endMark := startMark
  let mut text := ""
  let mut leadingBreak := ""
  let mut trailingBreaks := ""
  let mut whitespaces := ""
  let mut leadingBlanks := false
  for _ in [0:← loopBudget] do
    let st ← get
    if atDocumentMarker st || st.charAt 0 == '#' then break
    for _ in [0:← loopBudget] do
      let st ← get
      let c := st.charAt 0
      if Chars.isBlankOrEnd c then break
      let flow := st.flowLevel > 0
      if flow && c == ':' && [',', '?', '[', ']', '\x7b', '\x7d'].contains (st.charAt 1) then
        failIn "while scanning a plain scalar" startMark "found unexpected ':'"
      if (c == ':' && Chars.isBlankOrEnd (st.charAt 1)) ||
          (flow && [',', '[', ']', '\x7b', '\x7d'].contains c) then break
      if leadingBlanks || !whitespaces.isEmpty then
        text := joinFolded text leadingBreak trailingBreaks whitespaces leadingBlanks
        leadingBreak := ""
        trailingBreaks := ""
        whitespaces := ""
        leadingBlanks := false
      text ← readChar text
      endMark ← currentMark
    let c ← peekChar
    if !(Chars.isBlank c || Chars.isBreak c) then break
    for _ in [0:← loopBudget] do
      let st ← get
      let c := st.charAt 0
      if !(Chars.isBlank c || Chars.isBreak c) then break
      if Chars.isBlank c then
        if leadingBlanks && (st.mark.column : Int) < indent && c == '\t' then
          failIn "while scanning a plain scalar" startMark
            "found a tab character that violates indentation"
        if leadingBlanks then skipChar else whitespaces ← readChar whitespaces
      else if leadingBlanks then
        trailingBreaks ← readBreak trailingBreaks
      else
        whitespaces := ""
        leadingBreak ← readBreak leadingBreak
        leadingBlanks := true
    let st ← get
    if st.flowLevel == 0 && (st.mark.column : Int) < indent then break
  if leadingBlanks then modify fun s => { s with simpleKeyAllowed := true }
  return ⟨.scalar text .plain, startMark, endMark⟩

/-- The character of a one-letter escape in a double-quoted scalar, or the number of
    hexadecimal digits of a code escape. -/
def escapeOf : Char → Option (Sum Char Nat)
  | '0' => some (.inl '\x00')
  | 'a' => some (.inl '\x07')
  | 'b' => some (.inl '\x08')
  | 't' => some (.inl '\t')
  | '\t' => some (.inl '\t')
  | 'n' => some (.inl '\n')
  | 'v' => some (.inl '\x0b')
  | 'f' => some (.inl '\x0c')
  | 'r' => some (.inl '\r')
  | 'e' => some (.inl '\x1b')
  | ' ' => some (.inl ' ')
  | '"' => some (.inl '"')
  | '/' => some (.inl '/')
  | '\'' => some (.inl '\'')
  | '\\' => some (.inl '\\')
  | 'N' => some (.inl '\x85')
  | '_' => some (.inl '\xa0')
  | 'L' => some (.inl '\u2028')
  | 'P' => some (.inl '\u2029')
  | 'x' => some (.inr 2)
  | 'u' => some (.inr 4)
  | 'U' => some (.inr 8)
  | _ => none

/-- Reads the hexadecimal digits of a code escape. -/
def readCode (digits : Nat) (startMark : Mark) : TokenM Char := do
  let mut value := 0
  for k in [0:digits] do
    let c ← peekAt k
    if !Chars.isHex c then
      failIn "while parsing a quoted scalar" startMark "did not find expected hexadecimal number"
    value := value * 16 + Chars.hexValue c
  if (0xD800 ≤ value && value ≤ 0xDFFF) || value > 0x10FFFF then
    failIn "while parsing a quoted scalar" startMark "found invalid Unicode character escape code"
  for _ in [0:digits] do
    skipChar
  return Char.ofNat value

/-- Reads a single- or double-quoted scalar. -/
def scanQuotedScalar (single : Bool) : TokenM Token := do
  let startMark ← currentMark
  let quote := if single then '\'' else '"'
  skipChar
  let mut text := ""
  let mut leadingBreak := ""
  let mut trailingBreaks := ""
  let mut whitespaces := ""
  for _ in [0:← loopBudget] do
    let st ← get
    if atDocumentMarker st then
      failIn "while scanning a quoted scalar" startMark "found unexpected document indicator"
    if Chars.isEnd (st.charAt 0) then
      failIn "while scanning a quoted scalar" startMark "found unexpected end of stream"
    let mut leadingBlanks := false
    for _ in [0:← loopBudget] do
      let st ← get
      let c := st.charAt 0
      if Chars.isBlankOrEnd c then break
      if single && c == '\'' && st.charAt 1 == '\'' then
        text := text.push '\''
        skipChar
        skipChar
      else if c == quote then break
      else if !single && c == '\\' && Chars.isBreak (st.charAt 1) then
        skipChar
        skipBreak
        leadingBlanks := true
        break
      else if !single && c == '\\' then
        match escapeOf (st.charAt 1) with
        | none =>
          failIn "while parsing a quoted scalar" startMark "found unknown escape character"
        | some (.inl e) =>
          skipChar
          skipChar
          text := text.push e
        | some (.inr digits) =>
          skipChar
          skipChar
          text := text.push (← readCode digits startMark)
      else
        text ← readChar text
    if (← peekChar) == quote then break
    for _ in [0:← loopBudget] do
      let c ← peekChar
      if !(Chars.isBlank c || Chars.isBreak c) then break
      if Chars.isBlank c then
        if leadingBlanks then skipChar else whitespaces ← readChar whitespaces
      else if leadingBlanks then
        trailingBreaks ← readBreak trailingBreaks
      else
        whitespaces := ""
        leadingBreak ← readBreak leadingBreak
        leadingBlanks := true
    text := joinFolded text leadingBreak trailingBreaks whitespaces leadingBlanks
    leadingBreak := ""
    trailingBreaks := ""
    whitespaces := ""
  skipChar
  let endMark ← currentMark
  return ⟨.scalar text (if single then .singleQuoted else .doubleQuoted), startMark, endMark⟩

/-- Reads the indentation and empty lines before a line of a block scalar, fixing the
    indentation from the deepest of them if it is not yet known (`0`). Returns the
    indentation, the breaks read and the mark after the last break. -/
def blockScalarBreaks (indent : Nat) (breaks : String) (startMark : Mark) :
    TokenM (Nat × String × Mark) := do
  let mut maxIndent := 0
  let mut breaks := breaks
  let mut endMark ← currentMark
  for _ in [0:← loopBudget] do
    for _ in [0:← loopBudget] do
      let st ← get
      if !((indent == 0 || st.mark.column < indent) && st.charAt 0 == ' ') then break
      skipChar
    let st ← get
    if st.mark.column > maxIndent then maxIndent := st.mark.column
    if (indent == 0 || st.mark.column < indent) && st.charAt 0 == '\t' then
      failIn "while scanning a block scalar" startMark
        "found a tab character where an indentation space is expected"
    if !Chars.isBreak (st.charAt 0) then break
    breaks ← readBreak breaks
    endMark ← currentMark
  if indent != 0 then return (indent, breaks, endMark)
  let blockIndent := (← get).indent
  let least := if blockIndent + 1 < 1 then 1 else (blockIndent + 1).toNat
  return (max maxIndent least, breaks, endMark)

/-- Reads a literal (`|`) or folded (`>`) block scalar. -/
def scanBlockScalar (literal : Bool) : TokenM Token := do
  let startMark ← currentMark
  skipChar
  let mut chomping : Int := 0
  let mut increment := 0
  let c ← peekChar
  if c == '+' || c == '-' then
    chomping := if c == '+' then 1 else -1
    skipChar
    let d ← peekChar
    if Chars.isDigit d then
      if d == '0' then
        failIn "while scanning a block scalar" startMark "found an indentation indicator equal to 0"
      increment := d.toNat - '0'.toNat
      skipChar
  else if Chars.isDigit c then
    if c == '0' then
      failIn "while scanning a block scalar" startMark "found an indentation indicator equal to 0"
    increment := c.toNat - '0'.toNat
    skipChar
    let d ← peekChar
    if d == '+' || d == '-' then
      chomping := if d == '+' then 1 else -1
      skipChar
  skipBlanks
  if (← peekChar) == '#' then skipToBreak
  if !Chars.isBreakOrEnd (← peekChar) then
    failIn "while scanning a block scalar" startMark "did not find expected comment or line break"
  skipBreak
  let blockIndent := (← get).indent
  let mut indent : Nat :=
    if increment == 0 then 0
    else if blockIndent ≥ 0 then blockIndent.toNat + increment else increment
  let mut text := ""
  let mut leadingBreak := ""
  let (found, breaks, mark) ← blockScalarBreaks indent "" startMark
  indent := found
  let mut trailingBreaks := breaks
  let mut endMark := mark
  let mut leadingBlank := false
  for _ in [0:← loopBudget] do
    let st ← get
    if !(st.mark.column == indent && !Chars.isEnd (st.charAt 0)) then break
    let trailingBlank := Chars.isBlank (st.charAt 0)
    if !literal && leadingBreak.startsWith "\n" && !leadingBlank && !trailingBlank then
      if trailingBreaks.isEmpty then text := text.push ' '
    else
      text := text ++ leadingBreak
    leadingBreak := ""
    text := text ++ trailingBreaks
    trailingBreaks := ""
    leadingBlank := Chars.isBlank (st.charAt 0)
    for _ in [0:← loopBudget] do
      if Chars.isBreakOrEnd (← peekChar) then break
      text ← readChar text
    leadingBreak ← readBreak ""
    let (found, breaks, mark) ← blockScalarBreaks indent "" startMark
    indent := found
    trailingBreaks := breaks
    endMark := mark
  if chomping != -1 then text := text ++ leadingBreak
  if chomping == 1 then text := text ++ trailingBreaks
  return ⟨.scalar text (if literal then .literal else .folded), startMark, endMark⟩

/-- Reads an anchor (`&name`) or an alias (`*name`). -/
def scanAnchor (isAlias : Bool) : TokenM Token := do
  let startMark ← currentMark
  skipChar
  let mut name := ""
  for _ in [0:← loopBudget] do
    if !Chars.isWord (← peekChar) then break
    name ← readChar name
  let endMark ← currentMark
  let c ← peekChar
  if name.isEmpty ||
      !(Chars.isBlankOrEnd c || ['?', ':', ',', ']', '\x7d', '%', '@', '\x60'].contains c) then
    failIn (if isAlias then "while scanning an alias" else "while scanning an anchor") startMark
      "did not find expected alphabetic or numeric character"
  return ⟨if isAlias then .alias name else .anchor name, startMark, endMark⟩

/-- Reads `%xx` escapes of one UTF-8 character in a tag URI onto a text. -/
def scanUriEscapes (directive : Bool) (startMark : Mark) (acc : String) : TokenM String := do
  let context := if directive then "while parsing a %TAG directive" else "while parsing a tag"
  let mut bytes : Array UInt8 := #[]
  let mut width := 0
  for _ in [0:4] do
    let st ← get
    if !(st.charAt 0 == '%' && Chars.isHex (st.charAt 1) && Chars.isHex (st.charAt 2)) then
      failIn context startMark "did not find URI escaped octet"
    let octet := Chars.hexValue (st.charAt 1) * 16 + Chars.hexValue (st.charAt 2)
    if width == 0 then
      width :=
        if octet < 0x80 then 1 else if octet / 32 == 6 then 2 else if octet / 16 == 14 then 3
        else if octet / 8 == 30 then 4 else 0
      if width == 0 then failIn context startMark "found an incorrect leading UTF-8 octet"
    else if octet / 64 != 2 then
      failIn context startMark "found an incorrect trailing UTF-8 octet"
    bytes := bytes.push octet.toUInt8
    skipChar
    skipChar
    skipChar
    if bytes.size == width then break
  return acc ++ Utf8.decodeLossy bytes.toList

/-- A character of a tag URI; flow indicators only inside `!<…>`. -/
def isUriChar (verbatim : Bool) (c : Char) : Bool :=
  Chars.isWord c ||
    [';', '/', '?', ':', '@', '&', '=', '+', '$', '.', '%', '!', '~', '*', '\'', '(', ')'].contains c ||
    (verbatim && [',', '[', ']'].contains c)

/-- Reads a tag URI after a head already read (whose leading `!` is dropped). -/
def scanTagUri (verbatim directive : Bool) (head : String) (startMark : Mark) : TokenM String := do
  let mut length := head.length
  let mut uri := String.ofList (head.toList.drop 1)
  for _ in [0:← loopBudget] do
    let c ← peekChar
    if !isUriChar verbatim c then break
    if c == '%' then uri ← scanUriEscapes directive startMark uri
    else uri ← readChar uri
    length := length + 1
  if length == 0 then
    failIn (if directive then "while parsing a %TAG directive" else "while parsing a tag") startMark
      "did not find expected tag URI"
  return uri

/-- Reads a tag handle: `!`, `!!` or `!word!`, or a `!word` that is the start of a URI. -/
def scanTagHandle (directive : Bool) (startMark : Mark) : TokenM String := do
  if (← peekChar) != '!' then
    failIn (if directive then "while scanning a tag directive" else "while scanning a tag") startMark
      "did not find expected '!'"
  let mut handle ← readChar ""
  for _ in [0:← loopBudget] do
    if !Chars.isWord (← peekChar) then break
    handle ← readChar handle
  if (← peekChar) == '!' then
    handle ← readChar handle
  else if directive && handle != "!" then
    failIn "while parsing a tag directive" startMark "did not find expected '!'"
  return handle

/-- Reads a tag. -/
def scanTag : TokenM Token := do
  let startMark ← currentMark
  let (handle, suffix) ← do
    if (← peekAt 1) == '<' then
      skipChar
      skipChar
      let suffix ← scanTagUri true false "" startMark
      if (← peekChar) != '>' then
        failIn "while scanning a tag" startMark "did not find the expected '>'"
      skipChar
      pure ("", suffix)
    else
      let handle ← scanTagHandle false startMark
      if handle.length > 1 && handle.startsWith "!" && handle.endsWith "!" then
        pure (handle, ← scanTagUri false false "" startMark)
      else
        let suffix ← scanTagUri false false handle startMark
        if suffix.isEmpty then pure ("", "!") else pure ("!", suffix)
  let c ← peekChar
  if !Chars.isBlankOrEnd c && !((← get).flowLevel > 0 && c == ',') then
    failIn "while scanning a tag" startMark "did not find expected whitespace or line break"
  let endMark ← currentMark
  return ⟨.tag handle suffix, startMark, endMark⟩

/-- Reads a number of a `%YAML` directive: at most nine digits. -/
def scanVersionNumber (startMark : Mark) : TokenM Nat := do
  let mut value := 0
  let mut length := 0
  for _ in [0:← loopBudget] do
    let c ← peekChar
    if !Chars.isDigit c then break
    length := length + 1
    if length > 9 then
      failIn "while scanning a %YAML directive" startMark "found extremely long version number"
    value := value * 10 + (c.toNat - '0'.toNat)
    skipChar
  if length == 0 then
    failIn "while scanning a %YAML directive" startMark "did not find expected version number"
  return value

/-- Reads a directive, up to and including its line break. -/
def scanDirective : TokenM Token := do
  let startMark ← currentMark
  skipChar
  let mut name := ""
  for _ in [0:← loopBudget] do
    if !Chars.isWord (← peekChar) then break
    name ← readChar name
  if name.isEmpty then
    failIn "while scanning a directive" startMark "could not find expected directive name"
  if !Chars.isBlankOrEnd (← peekChar) then
    failIn "while scanning a directive" startMark "found unexpected non-alphabetical character"
  let kind ← do
    if name == "YAML" then
      skipBlanks
      let major ← scanVersionNumber startMark
      if (← peekChar) != '.' then
        failIn "while scanning a %YAML directive" startMark
          "did not find expected digit or '.' character"
      skipChar
      let minor ← scanVersionNumber startMark
      pure (TokenKind.versionDirective major minor)
    else if name == "TAG" then
      skipBlanks
      let handle ← scanTagHandle true startMark
      if !Chars.isBlank (← peekChar) then
        failIn "while scanning a %TAG directive" startMark "did not find expected whitespace"
      skipBlanks
      let pfx ← scanTagUri true true "" startMark
      if !Chars.isBlankOrEnd (← peekChar) then
        failIn "while scanning a %TAG directive" startMark
          "did not find expected whitespace or line break"
      pure (TokenKind.tagDirective handle pfx)
    else
      failIn "while scanning a directive" startMark "found unknown directive name"
  let endMark ← currentMark
  skipBlanks
  if (← peekChar) == '#' then skipToBreak
  if !Chars.isBreakOrEnd (← peekChar) then
    failIn "while scanning a directive" startMark "did not find expected comment or line break"
  skipBreak
  return ⟨kind, startMark, endMark⟩

end Yaml

end FeatureFlags
