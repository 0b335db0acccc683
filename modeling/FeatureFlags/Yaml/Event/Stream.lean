import FeatureFlags.Yaml.Token.Stream

/-!
# From tokens to events

The structure of a YAML stream is a sequence of events: documents, and within a document
nodes in order, a collection as its start event, its items and its end event. A node may
carry an anchor and a tag (already resolved through the document's tag handles); an alias
stands for the node of its anchor.

The grammar of YAML over tokens, as a machine whose state says what may come next and
whose stack says where to return after a node. Each step takes tokens and yields one
event; a missing node (a key without a value, an entry without content) yields an empty
plain scalar.

A document starts implicitly with its first node, or explicitly with `---` after its
directives; `%TAG` directives add tag handles to the two default ones (`!` and `!!`, the
latter for `tag:yaml.org,2002:`). A tag is its handle's prefix followed by its suffix.
-/

namespace FeatureFlags

namespace Yaml

/-- The kinds of YAML events. -/
inductive EventKind where
  | streamStart
  | streamEnd
  | documentStart (implicit : Bool)
  | documentEnd (implicit : Bool)
  | alias (anchor : String)
  | scalar (anchor tag : Option String) (text : String) (style : ScalarStyle)
  | sequenceStart (anchor tag : Option String) (flow : Bool)
  | sequenceEnd
  | mappingStart (anchor tag : Option String) (flow : Bool)
  | mappingEnd
  deriving Repr, Inhabited

/-- An event with the marks where it starts and ends. -/
structure Event where
  kind : EventKind
  start : Mark
  stop : Mark
  deriving Repr, Inhabited

/-- What the grammar expects next. -/
inductive GrammarState where
  | streamStart
  | implicitDocumentStart
  | documentStart
  | documentContent
  | documentEnd
  | blockNode
  | blockSequenceFirstEntry
  | blockSequenceEntry
  | indentlessSequenceEntry
  | blockMappingFirstKey
  | blockMappingKey
  | blockMappingValue
  | flowSequenceFirstEntry
  | flowSequenceEntry
  | flowSequenceEntryMappingKey
  | flowSequenceEntryMappingValue
  | flowSequenceEntryMappingEnd
  | flowMappingFirstKey
  | flowMappingKey
  | flowMappingValue
  | flowMappingEmptyValue
  | finished
  deriving Repr, DecidableEq, Inhabited

/-- The state of reading events from a token stream. -/
structure EventStream where
  tokens : TokenStream
  state : GrammarState := .streamStart
  /-- Where to return after the current node. -/
  returns : List GrammarState := []
  /-- Where the open collections began. -/
  marks : List Mark := []
  /-- The tag handles of the current document with their prefixes. -/
  tagHandles : List (String × String) := []
  deriving Inhabited

/-- Reading events, which may fail with a syntax error. -/
abbrev EventM := StateT EventStream (Except SyntaxError)

namespace EventStream

/-- Runs a step on the tokens. -/
def onTokens (m : TokenM α) : EventM α := do
  let r ← get
  match m.run r.tokens with
  | .ok (a, tokens) =>
    set { r with tokens }
    pure a
  | .error e => throw e

/-- The next token. -/
def peek : EventM Token := onTokens peekToken

/-- Takes the next token. -/
def skip : EventM Unit := onTokens skipToken

/-- Sets what comes next. -/
def goTo (s : GrammarState) : EventM Unit := modify fun r => { r with state := s }

/-- Notes where to return after the current node. -/
def pushReturn (s : GrammarState) : EventM Unit :=
  modify fun r => { r with returns := s :: r.returns }

/-- Returns to where the enclosing construct continues. -/
def popReturn : EventM Unit :=
  modify fun r =>
    match r.returns with
    | s :: rest => { r with state := s, returns := rest }
    | [] => { r with state := .finished }

/-- Notes where a collection began. -/
def pushMark (m : Mark) : EventM Unit := modify fun r => { r with marks := m :: r.marks }

/-- Where the innermost open collection began; it is closed. -/
def popMark : EventM Mark := do
  let r ← get
  match r.marks with
  | m :: rest =>
    set { r with marks := rest }
    pure m
  | [] => pure {}

/-- Fails with a problem at a mark. -/
def fail (problem : String) (mark : Mark) : EventM α := throw { problem, mark }

/-- Fails with a problem at a mark, met in a construct that began at another. -/
def failIn (context : String) (contextMark : Mark) (problem : String) (mark : Mark) : EventM α :=
  throw { problem, mark, context := some (context, contextMark) }

/-- An empty plain scalar at a mark. -/
def emptyScalar (mark : Mark) : Event := ⟨.scalar none none "" .plain, mark, mark⟩

/-- Reads the directives before a document and sets the document's tag handles. -/
def processDirectives : EventM Unit := do
  let mut version := false
  let mut handles : List (String × String) := []
  for _ in [0:(← get).tokens.budget] do
    let t ← peek
    match t.kind with
    | .versionDirective major minor =>
      if version then fail "found duplicate %YAML directive" t.start
      if major != 1 || (minor != 1 && minor != 2) then fail "found incompatible YAML document" t.start
      version := true
    | .tagDirective handle pfx =>
      if handles.any (·.1 == handle) then fail "found duplicate %TAG directive" t.start
      handles := handles ++ [(handle, pfx)]
    | _ => break
    skip
  for (handle, pfx) in [("!", "!"), ("!!", "tag:yaml.org,2002:")] do
    if !handles.any (·.1 == handle) then handles := handles ++ [(handle, pfx)]
  modify fun r => { r with tagHandles := handles }

/-- The start of the stream. -/
def streamStart : EventM Event := do
  let t ← peek
  match t.kind with
  | .streamStart =>
    goTo .implicitDocumentStart
    skip
    pure ⟨.streamStart, t.start, t.start⟩
  | _ => fail "did not find expected <stream-start>" t.start

/-- The start of a document, or the end of the stream. -/
def documentStart (implicit : Bool) : EventM Event := do
  let mut t ← peek
  if !implicit then
    for _ in [0:(← get).tokens.budget] do
      if !t.kind.isDocumentEnd then break
      skip
      t ← peek
  if implicit && !(t.kind.isDirective || t.kind.isDocumentStart || t.kind.isStreamEnd) then
    processDirectives
    pushReturn .documentEnd
    goTo .blockNode
    pure ⟨.documentStart true, t.start, t.start⟩
  else if !t.kind.isStreamEnd then
    let start := t.start
    processDirectives
    let marker ← peek
    if !marker.kind.isDocumentStart then fail "did not find expected <document start>" marker.start
    pushReturn .documentEnd
    goTo .documentContent
    skip
    pure ⟨.documentStart false, start, marker.stop⟩
  else
    goTo .finished
    skip
    pure ⟨.streamEnd, t.start, t.stop⟩

/-- The end of a document, explicit with `...` or implicit. -/
def documentEnd : EventM Event := do
  let t ← peek
  let explicit := t.kind.isDocumentEnd
  if explicit then skip
  modify fun r => { r with tagHandles := [] }
  goTo .documentStart
  pure ⟨.documentEnd (!explicit), t.start, if explicit then t.stop else t.start⟩

/-- A node: an alias, or content with an optional anchor and tag. In block context
    (`block`) a node may be a block collection; `indentless` also admits a sequence whose
    `-` entries stand at the indentation of the enclosing mapping. -/
def node (block indentless : Bool) : EventM Event := do
  let first ← peek
  if let .alias name := first.kind then
    popReturn
    skip
    return ⟨.alias name, first.start, first.stop⟩
  let mut t := first
  let mut startMark := first.start
  let mut endMark := first.start
  let mut tagMark := first.start
  let mut anchor : Option String := none
  let mut written : Option (String × String) := none
  match first.kind with
  | .anchor name =>
    anchor := some name
    endMark := first.stop
    skip
    t ← peek
    if let .tag handle suffix := t.kind then
      written := some (handle, suffix)
      tagMark := t.start
      endMark := t.stop
      skip
      t ← peek
  | .tag handle suffix =>
    written := some (handle, suffix)
    endMark := first.stop
    skip
    t ← peek
    if let .anchor name := t.kind then
      anchor := some name
      endMark := t.stop
      skip
      t ← peek
  | _ => pure ()
  let mut tag : Option String := none
  if let some (handle, suffix) := written then
    if handle.isEmpty then tag := some suffix
    else
      match (← get).tagHandles.find? (·.1 == handle) with
      | some (_, pfx) => tag := some (pfx ++ suffix)
      | none => failIn "while parsing a node" startMark "found undefined tag handle" tagMark
  if indentless && t.kind.isBlockEntry then
    goTo .indentlessSequenceEntry
    return ⟨.sequenceStart anchor tag false, startMark, t.stop⟩
  match t.kind with
  | .scalar text style =>
    popReturn
    skip
    return ⟨.scalar anchor tag text style, startMark, t.stop⟩
  | .flowSequenceStart =>
    goTo .flowSequenceFirstEntry
    return ⟨.sequenceStart anchor tag true, startMark, t.stop⟩
  | .flowMappingStart =>
    goTo .flowMappingFirstKey
    return ⟨.mappingStart anchor tag true, startMark, t.stop⟩
  | .blockSequenceStart =>
    if block then
      goTo .blockSequenceFirstEntry
      return ⟨.sequenceStart anchor tag false, startMark, t.stop⟩
  | .blockMappingStart =>
    if block then
      goTo .blockMappingFirstKey
      return ⟨.mappingStart anchor tag false, startMark, t.stop⟩
  | _ => pure ()
  if anchor.isSome || tag.isSome then
    popReturn
    return ⟨.scalar anchor tag "" .plain, startMark, endMark⟩
  failIn (if block then "while parsing a block node" else "while parsing a flow node") startMark
    "did not find expected node content" t.start

/-- Takes the start token of a collection and notes its mark. -/
def openCollection : EventM Unit := do
  let t ← peek
  pushMark t.start
  skip

/-- An entry of a block sequence, or its end. -/
def blockSequenceEntry (first : Bool) : EventM Event := do
  if first then openCollection
  let t ← peek
  match t.kind with
  | .blockEntry =>
    skip
    let next ← peek
    if next.kind.isBlockEntry || next.kind.isBlockEnd then
      goTo .blockSequenceEntry
      pure (emptyScalar t.stop)
    else
      pushReturn .blockSequenceEntry
      node true false
  | .blockEnd =>
    popReturn
    discard popMark
    skip
    pure ⟨.sequenceEnd, t.start, t.stop⟩
  | _ =>
    failIn "while parsing a block collection" (← popMark) "did not find expected '-' indicator" t.start

/-- An entry of a sequence without indentation of its own, or its end. -/
def indentlessSequenceEntry : EventM Event := do
  let t ← peek
  if t.kind.isBlockEntry then
    skip
    let next ← peek
    if next.kind.isBlockEntry || next.kind.isKey || next.kind.isValue || next.kind.isBlockEnd then
      goTo .indentlessSequenceEntry
      pure (emptyScalar t.stop)
    else
      pushReturn .indentlessSequenceEntry
      node true false
  else
    popReturn
    pure ⟨.sequenceEnd, t.start, t.start⟩

/-- A key of a block mapping, or its end. -/
def blockMappingKey (first : Bool) : EventM Event := do
  if first then openCollection
  let t ← peek
  match t.kind with
  | .key =>
    skip
    let next ← peek
    if next.kind.isKey || next.kind.isValue || next.kind.isBlockEnd then
      goTo .blockMappingValue
      pure (emptyScalar t.stop)
    else
      pushReturn .blockMappingValue
      node true true
  | .blockEnd =>
    popReturn
    discard popMark
    skip
    pure ⟨.mappingEnd, t.start, t.stop⟩
  | _ => failIn "while parsing a block mapping" (← popMark) "did not find expected key" t.start

/-- A value of a block mapping, empty when it is missing. -/
def blockMappingValue : EventM Event := do
  let t ← peek
  if t.kind.isValue then
    skip
    let next ← peek
    if next.kind.isKey || next.kind.isValue || next.kind.isBlockEnd then
      goTo .blockMappingKey
      pure (emptyScalar t.stop)
    else
      pushReturn .blockMappingKey
      node true true
  else
    goTo .blockMappingKey
    pure (emptyScalar t.start)

/-- An entry of a flow sequence, or its end. -/
def flowSequenceEntry (first : Bool) : EventM Event := do
  if first then openCollection
  let mut t ← peek
  if !t.kind.isFlowSequenceEnd then
    if !first then
      if t.kind.isFlowEntry then
        skip
        t ← peek
      else
        failIn "while parsing a flow sequence" (← popMark) "did not find expected ',' or ']'" t.start
    if t.kind.isKey then
      goTo .flowSequenceEntryMappingKey
      skip
      return ⟨.mappingStart none none true, t.start, t.stop⟩
    else if !t.kind.isFlowSequenceEnd then
      pushReturn .flowSequenceEntry
      return ← node false false
  popReturn
  discard popMark
  skip
  pure ⟨.sequenceEnd, t.start, t.stop⟩

/-- The key of a one-pair mapping inside a flow sequence. An empty key (the `?` directly
    followed by `:`, `,` or `]`) takes that token with it. -/
def flowSequenceEntryMappingKey : EventM Event := do
  let t ← peek
  if t.kind.isValue || t.kind.isFlowEntry || t.kind.isFlowSequenceEnd then
    -- the token is passed over, so that the value and the end of the sequence are looked
    -- for after it
    skip
    goTo .flowSequenceEntryMappingValue
    pure (emptyScalar t.stop)
  else
    pushReturn .flowSequenceEntryMappingValue
    node false false

/-- The value of a one-pair mapping inside a flow sequence. -/
def flowSequenceEntryMappingValue : EventM Event := do
  let t ← peek
  if t.kind.isValue then
    skip
    let next ← peek
    if !(next.kind.isFlowEntry || next.kind.isFlowSequenceEnd) then
      pushReturn .flowSequenceEntryMappingEnd
      return ← node false false
    goTo .flowSequenceEntryMappingEnd
    return emptyScalar next.start
  goTo .flowSequenceEntryMappingEnd
  pure (emptyScalar t.start)

/-- The end of a one-pair mapping inside a flow sequence. -/
def flowSequenceEntryMappingEnd : EventM Event := do
  let t ← peek
  goTo .flowSequenceEntry
  pure ⟨.mappingEnd, t.start, t.start⟩

/-- A key of a flow mapping, or its end. -/
def flowMappingKey (first : Bool) : EventM Event := do
  if first then openCollection
  let mut t ← peek
  if !t.kind.isFlowMappingEnd then
    if !first then
      if t.kind.isFlowEntry then
        skip
        t ← peek
      else
        failIn "while parsing a flow mapping" (← popMark) "did not find expected ',' or '\x7d'" t.start
    if t.kind.isKey then
      skip
      let next ← peek
      if next.kind.isValue || next.kind.isFlowEntry || next.kind.isFlowMappingEnd then
        goTo .flowMappingValue
        return emptyScalar next.start
      pushReturn .flowMappingValue
      return ← node false false
    else if !t.kind.isFlowMappingEnd then
      pushReturn .flowMappingEmptyValue
      return ← node false false
  popReturn
  discard popMark
  skip
  pure ⟨.mappingEnd, t.start, t.stop⟩

/-- A value of a flow mapping; `empty` after a key written without `?` or `:`. -/
def flowMappingValue (empty : Bool) : EventM Event := do
  let t ← peek
  if empty then
    goTo .flowMappingKey
    return emptyScalar t.start
  if t.kind.isValue then
    skip
    let next ← peek
    if !(next.kind.isFlowEntry || next.kind.isFlowMappingEnd) then
      pushReturn .flowMappingKey
      return ← node false false
    goTo .flowMappingKey
    return emptyScalar next.start
  goTo .flowMappingKey
  pure (emptyScalar t.start)

/-- The next event, or none after the end of the stream. -/
def next : EventM (Option Event) := do
  match (← get).state with
  | .finished => pure none
  | .streamStart => some <$> streamStart
  | .implicitDocumentStart => some <$> documentStart true
  | .documentStart => some <$> documentStart false
  | .documentContent =>
    let t ← peek
    if t.kind.isDirective || t.kind.isDocumentStart || t.kind.isDocumentEnd || t.kind.isStreamEnd then
      popReturn
      pure (some (emptyScalar t.start))
    else some <$> node true false
  | .documentEnd => some <$> documentEnd
  | .blockNode => some <$> node true false
  | .blockSequenceFirstEntry => some <$> blockSequenceEntry true
  | .blockSequenceEntry => some <$> blockSequenceEntry false
  | .indentlessSequenceEntry => some <$> indentlessSequenceEntry
  | .blockMappingFirstKey => some <$> blockMappingKey true
  | .blockMappingKey => some <$> blockMappingKey false
  | .blockMappingValue => some <$> blockMappingValue
  | .flowSequenceFirstEntry => some <$> flowSequenceEntry true
  | .flowSequenceEntry => some <$> flowSequenceEntry false
  | .flowSequenceEntryMappingKey => some <$> flowSequenceEntryMappingKey
  | .flowSequenceEntryMappingValue => some <$> flowSequenceEntryMappingValue
  | .flowSequenceEntryMappingEnd => some <$> flowSequenceEntryMappingEnd
  | .flowMappingFirstKey => some <$> flowMappingKey true
  | .flowMappingKey => some <$> flowMappingKey false
  | .flowMappingValue => some <$> flowMappingValue false
  | .flowMappingEmptyValue => some <$> flowMappingValue true

end EventStream

end Yaml

end FeatureFlags
