import FeatureFlags.Yaml.Token.Scalar

/-!
# The token stream

Tokens are found one at a time, each from the character that starts it, but handed out
only once it is certain that no token has to be inserted before them: a scalar, alias,
anchor, tag or flow collection may turn out to be a simple key when a `:` follows on its
line, and then a `key` token (and, at a new block indentation, a `blockMappingStart`) goes
in front of it. So `peekToken` finds tokens until no possible simple key stands at the
head of the queue.

Block structure comes from indentation: a block entry, a key or a value at a column
deeper than the current indentation opens a block collection there, and a token at a
shallower column closes the deeper ones (`blockEnd`). In flow context indentation means
nothing.
-/

namespace FeatureFlags

namespace Yaml

/-- Adds a token at the end of the queue. -/
def enqueue (t : Token) : TokenM Unit :=
  modify fun s => { s with queue := s.queue.push t }

/-- Inserts a token at a place of the queue. -/
def insertToken (k : Nat) (t : Token) : TokenM Unit :=
  modify fun s => { s with queue := (s.queue.toList.take k ++ t :: s.queue.toList.drop k).toArray }

/-- The possible simple key of the innermost flow level. -/
def TokenStream.topKey (s : TokenStream) : SimpleKey := s.simpleKeys.back?.getD {}

/-- Replaces the possible simple key of the innermost flow level. -/
def setTopKey (k : SimpleKey) : TokenM Unit :=
  modify fun s => { s with simpleKeys := s.simpleKeys.modify (s.simpleKeys.size - 1) fun _ => k }

/-- Sets whether a simple key may start here. -/
def allowSimpleKey (allowed : Bool) : TokenM Unit :=
  modify fun s => { s with simpleKeyAllowed := allowed }

/-- The error of a required simple key without its `:`. -/
def missingColon (key : SimpleKey) : TokenM α := do
  throw { problem := "could not find expected ':'", mark := (← get).mark,
          context := some ("while scanning a simple key", key.mark) }

/-- Drops possible simple keys that can no longer be completed: those on an earlier line,
    and those more than 1024 bytes back. -/
def staleSimpleKeys : TokenM Unit := do
  let s ← get
  let mut keys := #[]
  for k in s.simpleKeys do
    if k.possible && (k.mark.line < s.mark.line || k.mark.index + 1024 < s.mark.index) then
      if k.required then missingColon k
      keys := keys.push { k with possible := false }
    else
      keys := keys.push k
  modify fun s => { s with simpleKeys := keys }

/-- Drops the possible simple key of the innermost flow level. -/
def removeSimpleKey : TokenM Unit := do
  let k := (← get).topKey
  if k.possible && k.required then missingColon k
  setTopKey { k with possible := false }

/-- Notes that a simple key may start at the current place. -/
def saveSimpleKey : TokenM Unit := do
  let s ← get
  if s.simpleKeyAllowed then
    let key : SimpleKey :=
      { possible := true, required := s.flowLevel == 0 && s.indent == (s.mark.column : Int),
        tokenNumber := s.taken + s.queue.size, mark := s.mark }
    removeSimpleKey
    setTopKey key

/-- Enters a flow collection. -/
def increaseFlowLevel : TokenM Unit :=
  modify fun s => { s with simpleKeys := s.simpleKeys.push {}, flowLevel := s.flowLevel + 1 }

/-- Leaves a flow collection. -/
def decreaseFlowLevel : TokenM Unit :=
  modify fun s =>
    if s.flowLevel > 0 then { s with flowLevel := s.flowLevel - 1, simpleKeys := s.simpleKeys.pop }
    else s

/-- Opens a block collection at a column deeper than the current indentation, its start
    token going at the end of the queue or before the token of a given number. -/
def rollIndent (column : Int) (number : Option Nat) (kind : TokenKind) (mark : Mark) :
    TokenM Unit := do
  let s ← get
  if s.flowLevel == 0 && s.indent < column then
    modify fun s => { s with indents := s.indent :: s.indents, indent := column }
    match number with
    | none => enqueue ⟨kind, mark, mark⟩
    | some n => insertToken (n - s.taken) ⟨kind, mark, mark⟩

/-- Closes the block collections deeper than a column. -/
def unrollIndent (column : Int) : TokenM Unit := do
  if (← get).flowLevel > 0 then return
  for _ in [0:(← get).indents.length + 1] do
    let s ← get
    if s.indent ≤ column then break
    enqueue ⟨.blockEnd, s.mark, s.mark⟩
    modify fun s =>
      match s.indents with
      | i :: rest => { s with indent := i, indents := rest }
      | [] => { s with indent := -1 }

/-- Passes over blanks, comments and line breaks up to the next token. Tabs count as
    blanks in flow context and where no simple key may start. -/
def scanToNextToken : TokenM Unit := do
  for _ in [0:← loopBudget] do
    let s ← get
    if s.mark.column == 0 && s.charAt 0 == '\uFEFF' then skipChar
    for _ in [0:← loopBudget] do
      let s ← get
      let c := s.charAt 0
      if !(c == ' ' || ((s.flowLevel > 0 || !s.simpleKeyAllowed) && c == '\t')) then break
      skipChar
    if (← peekChar) == '#' then skipToBreak
    if Chars.isBreak (← peekChar) then
      skipBreak
      if (← get).flowLevel == 0 then allowSimpleKey true
    else break

/-- Passes over an indicator of `n` characters and queues its token. -/
def indicatorToken (kind : TokenKind) (n : Nat) : TokenM Unit := do
  let start ← currentMark
  for _ in [0:n] do
    skipChar
  enqueue ⟨kind, start, ← currentMark⟩

/-- The start of the stream. -/
def fetchStreamStart : TokenM Unit := do
  modify fun s =>
    { s with indent := -1, simpleKeys := s.simpleKeys.push {}, simpleKeyAllowed := true,
             startDone := true }
  let m ← currentMark
  enqueue ⟨.streamStart, m, m⟩

/-- The end of the stream, on a line of its own. -/
def fetchStreamEnd : TokenM Unit := do
  modify fun s =>
    if s.mark.column != 0 then { s with mark := { s.mark with column := 0, line := s.mark.line + 1 } }
    else s
  unrollIndent (-1)
  removeSimpleKey
  allowSimpleKey false
  let m ← currentMark
  enqueue ⟨.streamEnd, m, m⟩

/-- A directive, or a document marker: both close all block collections. -/
def fetchDocumentLevel (token : TokenM Unit) : TokenM Unit := do
  unrollIndent (-1)
  removeSimpleKey
  allowSimpleKey false
  token

/-- `[` or `{`, which may start a simple key. -/
def fetchFlowCollectionStart (kind : TokenKind) : TokenM Unit := do
  saveSimpleKey
  increaseFlowLevel
  allowSimpleKey true
  indicatorToken kind 1

/-- `]` or `}`. -/
def fetchFlowCollectionEnd (kind : TokenKind) : TokenM Unit := do
  removeSimpleKey
  decreaseFlowLevel
  allowSimpleKey false
  indicatorToken kind 1

/-- `,` in flow context. -/
def fetchFlowEntry : TokenM Unit := do
  removeSimpleKey
  allowSimpleKey true
  indicatorToken .flowEntry 1

/-- `-` before a blank. -/
def fetchBlockEntry : TokenM Unit := do
  let s ← get
  if s.flowLevel == 0 then
    if !s.simpleKeyAllowed then failHere "block sequence entries are not allowed in this context"
    rollIndent s.mark.column none .blockSequenceStart s.mark
  removeSimpleKey
  allowSimpleKey true
  indicatorToken .blockEntry 1

/-- `?` before a blank. -/
def fetchKey : TokenM Unit := do
  let s ← get
  if s.flowLevel == 0 then
    if !s.simpleKeyAllowed then failHere "mapping keys are not allowed in this context"
    rollIndent s.mark.column none .blockMappingStart s.mark
  removeSimpleKey
  allowSimpleKey (s.flowLevel == 0)
  indicatorToken .key 1

/-- `:` that is a value indicator: it completes a possible simple key, or follows a
    complex key. -/
def fetchValue : TokenM Unit := do
  let s ← get
  let k := s.topKey
  if k.possible then
    insertToken (k.tokenNumber - s.taken) ⟨.key, k.mark, k.mark⟩
    rollIndent k.mark.column (some k.tokenNumber) .blockMappingStart k.mark
    setTopKey { k with possible := false }
    allowSimpleKey false
  else
    if s.flowLevel == 0 then
      if !s.simpleKeyAllowed then failHere "mapping values are not allowed in this context"
      rollIndent s.mark.column none .blockMappingStart s.mark
    allowSimpleKey (s.flowLevel == 0)
  indicatorToken .value 1

/-- A token that may be a simple key and after which no simple key starts. -/
def fetchKeyCandidate (scan : TokenM Token) : TokenM Unit := do
  saveSimpleKey
  allowSimpleKey false
  enqueue (← scan)

/-- A block scalar, after which a simple key may start. -/
def fetchBlockScalar (literal : Bool) : TokenM Unit := do
  removeSimpleKey
  allowSimpleKey true
  enqueue (← scanBlockScalar literal)

/-- Whether a character is an indicator. -/
def isIndicator (c : Char) : Bool :=
  ['-', '?', ':', ',', '[', ']', '\x7b', '\x7d', '#', '&', '*', '!', '|', '>', '\'', '"', '%', '@',
    '\x60'].contains c

/-- Finds the next token and queues it, with the tokens that it implies. -/
def fetchNextToken : TokenM Unit := do
  if !(← get).startDone then
    fetchStreamStart
    return
  scanToNextToken
  staleSimpleKeys
  unrollIndent (← get).mark.column
  let s ← get
  let c := s.charAt 0
  let next := s.charAt 1
  let flow := s.flowLevel > 0
  let marker (d : Char) := s.mark.column == 0 && c == d && next == d && s.charAt 2 == d &&
    Chars.isBlankOrEnd (s.charAt 3)
  if Chars.isEnd c then fetchStreamEnd
  else if s.mark.column == 0 && c == '%' then fetchDocumentLevel (enqueue (← scanDirective))
  else if marker '-' then fetchDocumentLevel (indicatorToken .documentStart 3)
  else if marker '.' then fetchDocumentLevel (indicatorToken .documentEnd 3)
  else if c == '[' then fetchFlowCollectionStart .flowSequenceStart
  else if c == '\x7b' then fetchFlowCollectionStart .flowMappingStart
  else if c == ']' then fetchFlowCollectionEnd .flowSequenceEnd
  else if c == '\x7d' then fetchFlowCollectionEnd .flowMappingEnd
  else if c == ',' then fetchFlowEntry
  else if c == '-' && Chars.isBlankOrEnd next then fetchBlockEntry
  else if c == '?' && (flow || Chars.isBlankOrEnd next) then fetchKey
  else if c == ':' && (flow || Chars.isBlankOrEnd next) then fetchValue
  else if c == '*' then fetchKeyCandidate (scanAnchor true)
  else if c == '&' then fetchKeyCandidate (scanAnchor false)
  else if c == '!' then fetchKeyCandidate scanTag
  else if c == '|' && !flow then fetchBlockScalar true
  else if c == '>' && !flow then fetchBlockScalar false
  else if c == '\'' then fetchKeyCandidate (scanQuotedScalar true)
  else if c == '"' then fetchKeyCandidate (scanQuotedScalar false)
  else if !(Chars.isBlankOrEnd c || isIndicator c) || (c == '-' && !Chars.isBlank next) ||
      (!flow && (c == '?' || c == ':') && !Chars.isBlankOrEnd next) then
    fetchKeyCandidate scanPlainScalar
  else
    failIn "while scanning for the next token" s.mark "found character that cannot start any token"

/-- Finds tokens until the head of the queue is certain. -/
def fetchMoreTokens : TokenM Unit := do
  for _ in [0:2 * (← loopBudget) + 8] do
    let need ← do
      if (← get).queue.isEmpty then pure true
      else
        staleSimpleKeys
        let s ← get
        pure (s.simpleKeys.any fun k => k.possible && k.tokenNumber == s.taken)
    if !need then break
    fetchNextToken
  modify fun s => { s with available := true }

/-- The next token, found if needed. -/
def peekToken : TokenM Token := do
  if !(← get).available then fetchMoreTokens
  let s ← get
  match s.queue[0]? with
  | some t => return t
  | none => return ⟨.streamEnd, s.mark, s.mark⟩

/-- Takes the next token. -/
def skipToken : TokenM Unit :=
  modify fun s =>
    { s with available := false, taken := s.taken + 1,
             endDone := s.queue[0]?.any (·.kind.isStreamEnd), queue := s.queue.extract 1 s.queue.size }

end Yaml

end FeatureFlags
