import FeatureFlags.Yaml.Document
import FeatureFlags.Yaml.Value.Scalar

/-!
# Loading a YAML value

A text holds one document, whose value is built from its events:

* a node with a local tag (`!name`) is a tagged value, its content read as if untagged;
* a scalar tagged `!!bool`, `!!int`, `!!float` or `!!null` follows that rule only; any
  other tag makes a string; an untagged plain scalar is resolved (`PlainScalar.resolve`),
  and a quoted or block scalar is a string;
* an alias is the value of its anchor's node, read again;
* collections nest at most 128 deep, and aliases are followed at most a hundred times per
  event of the document;
* a key may not repeat in a mapping.

A refused value is reported at the mark of its node with its path from the root: keys
joined by dots, sequence indices in brackets (`flags.cache[2]`), `?` for a key that is
not a scalar. The error that cut the document short is reported only when its events are
needed, or after the value is complete; a second document is refused.
-/

namespace FeatureFlags

namespace Yaml

/-- Where a node stands in a document. -/
inductive NodePath where
  | root
  | item (parent : NodePath) (index : Nat)
  | entry (parent : NodePath) (key : String)
  | alias (parent : NodePath)
  | unknown (parent : NodePath)

namespace NodePath

mutual

/-- The text of a path: `.` for the root. -/
def text : NodePath → String
  | .root => "."
  | .item parent index => text parent ++ "[" ++ toString index ++ "]"
  | .entry parent key => prefixText parent ++ key
  | .alias parent => text parent
  | .unknown parent => prefixText parent ++ "?"

/-- The text before a child's key: nothing at the root, else the path and a dot. -/
def prefixText : NodePath → String
  | .root => ""
  | .item parent index => text (.item parent index) ++ "."
  | .entry parent key => text (.entry parent key) ++ "."
  | .alias parent => text (.alias parent) ++ "."
  | .unknown parent => text (.unknown parent) ++ "."

end

end NodePath

/-- Building a value, counting the aliases followed. -/
abbrev LoadM := StateT Nat (Except LoadError)

/-- The tag of a node that makes it a tagged value: a local tag, without its `!`. -/
def localTag? : Option String → Option String
  | some tag =>
    if tag.startsWith "!" then
      let rest := String.ofList (tag.toList.drop 1)
      some (if rest.isEmpty then tag else rest)
    else none
  | none => none

/-- Gives a refusal the mark and path of its node, unless it has them. -/
def LoadError.placed (e : LoadError) (mark : Mark) (path : NodePath) : LoadError :=
  match e with
  | .refused message none => .refused message (some (mark, path.text))
  | other => other

/-- The message of an integer beyond 64 bits. -/
def rangeMessage : PlainScalar.Refusal → String
  | .integerRange n isUnsigned =>
    s!"invalid type: integer " ++ "\x60" ++ toString n ++ "\x60" ++
      (if isUnsigned then " as u128" else " as i128") ++ ", expected any YAML value"

/-- The message of a scalar that its core tag refuses. -/
def tagRefusal (text expected : String) : LoadError :=
  .refused s!"invalid value: string {Escaped.quote text}, expected {expected}" none

/-- The value of a scalar. -/
def scalarValue (tag : Option String) (text : String) (style : ScalarStyle) (inTagged : Bool) :
    Except LoadError YamlValue :=
  let plain : Except LoadError YamlValue :=
    match PlainScalar.resolve text with
    | .ok v => .ok v
    | .error r => .error (.refused (rangeMessage r) none)
  match tag, inTagged with
  | some t, false =>
    if t == "tag:yaml.org,2002:bool" then
      match PlainScalar.bool? text with
      | some b => .ok (.bool b)
      | none => .error (tagRefusal text "a boolean")
    else if t == "tag:yaml.org,2002:int" then
      match PlainScalar.integerValue? text with
      | some (.ok n) => .ok (.number n)
      | some (.error r) => .error (.refused (rangeMessage r) none)
      | none => .error (tagRefusal text "an integer")
    else if t == "tag:yaml.org,2002:float" then
      match PlainScalar.float? text with
      | some x => .ok (.number (.real x))
      | none => .error (tagRefusal text "a float")
    else if t == "tag:yaml.org,2002:null" then
      if ["null", "Null", "NULL", "~"].contains text then .ok .null
      else .error (tagRefusal text "null")
    else .ok (.string text)
  | _, _ => if style == .plain then plain else .ok (.string text)

/-- The event at a place of a document, or the error that cut the document short. -/
def eventAt (doc : Document) (pos : Nat) : Except LoadError (NodeEvent × Mark) :=
  match doc.events[pos]? with
  | some e => .ok e
  | none => .error (doc.error.getD .endOfStream)

/-- Whether a place holds the end of a collection. -/
def endsCollection (doc : Document) (pos : Nat) : Except LoadError Bool := do
  match (← eventAt doc pos).1 with
  | .sequenceEnd | .mappingEnd | .void => pure true
  | _ => pure false

/-- The message of a key that repeats. -/
def duplicateMessage : YamlValue → String
  | .null => "duplicate entry with null key"
  | .bool b => "duplicate entry with key " ++ "\x60" ++ toString b ++ "\x60"
  | .number n => "duplicate entry with key " ++ n.text
  | .string s => "duplicate entry with key " ++ Escaped.quote s
  | _ => "duplicate entry in YAML map"

mutual

/-- The value of the node at a place, and the place after it. `fuel` bounds the nesting
    of calls, `depth` the collections still allowed inside. -/
def nodeAt (doc : Document) : Nat → Nat → NodePath → Nat → Bool → LoadM (YamlValue × Nat)
  | 0, _, _, _, _ => throw .repetitionLimit
  | fuel + 1, pos, path, depth, inTagged => do
    let (event, mark) ← eventAt doc pos
    tryCatch (nodeBody doc fuel event mark pos path depth inTagged) fun e =>
      throw (e.placed mark path)
termination_by fuel _ _ _ _ => (fuel, 0)
decreasing_by exact Prod.Lex.left _ _ (Nat.lt_succ_self _)

/-- The value of the node whose event is at a place. -/
def nodeBody (doc : Document) (fuel : Nat) (event : NodeEvent) (mark : Mark) (pos : Nat)
    (path : NodePath) (depth : Nat) (inTagged : Bool) : LoadM (YamlValue × Nat) := do
  let tagOf : NodeEvent → Option String
    | .scalar tag _ _ | .sequenceStart tag | .mappingStart tag => tag
    | _ => none
  if !inTagged then
    if let some tag := localTag? (tagOf event) then
      let (inner, after) ← nodeAt doc fuel pos path depth true
      return (.tagged ("!" ++ tagName tag) inner, after)
  match event with
  | .alias target =>
    let jumps := (← get) + 1
    set jumps
    if jumps > doc.events.size * 100 then throw .repetitionLimit
    let (v, _) ← nodeAt doc fuel target (.alias path) depth false
    pure (v, pos + 1)
  | .scalar tag text style =>
    match scalarValue tag text style inTagged with
    | .ok v => pure (v, pos + 1)
    | .error e => throw e
  | .sequenceStart _ =>
    if depth == 0 then throw (.recursionLimit mark)
    let (items, after) ← itemsFrom doc fuel (doc.events.size + 1) (pos + 1) path 0 (depth - 1) []
    pure (.sequence items, after + 1)
  | .mappingStart _ =>
    if depth == 0 then throw (.recursionLimit mark)
    let (entries, after) ← entriesFrom doc fuel (doc.events.size + 1) (pos + 1) path (depth - 1) []
    pure (.mapping entries, after + 1)
  | .void => pure (.null, pos + 1)
  | .sequenceEnd | .mappingEnd => throw .endOfStream
termination_by (fuel, doc.events.size + 3)
decreasing_by
  all_goals first
    | exact Prod.Lex.right _ (Nat.zero_lt_succ _)
    | exact Prod.Lex.right _ (Nat.lt_succ_self _)

/-- The items of a sequence from a place up to its end event, whose place is returned. -/
def itemsFrom (doc : Document) (fuel : Nat) : Nat → Nat → NodePath → Nat → Nat →
    List YamlValue → LoadM (List YamlValue × Nat)
  | 0, pos, _, _, _, acc => pure (acc.reverse, pos)
  | budget + 1, pos, path, index, depth, acc => do
    if ← endsCollection doc pos then
      let _ ← eventAt doc pos
      return (acc.reverse, pos)
    let (v, after) ← nodeAt doc fuel pos (.item path index) depth false
    itemsFrom doc fuel budget after path (index + 1) depth (v :: acc)
termination_by budget _ _ _ _ _ => (fuel, budget + 1)
decreasing_by
  all_goals first
    | exact Prod.Lex.right _ (Nat.zero_lt_succ _)
    | exact Prod.Lex.right _ (Nat.lt_succ_self _)

/-- The pairs of a mapping from a place up to its end event, whose place is returned. -/
def entriesFrom (doc : Document) (fuel : Nat) : Nat → Nat → NodePath → Nat →
    List (YamlValue × YamlValue) → LoadM (List (YamlValue × YamlValue) × Nat)
  | 0, pos, _, _, acc => pure (acc.reverse, pos)
  | budget + 1, pos, path, depth, acc => do
    if ← endsCollection doc pos then return (acc.reverse, pos)
    let keyPath : NodePath :=
      match (← eventAt doc pos).1 with
      | .scalar _ text _ => .entry path text
      | _ => .unknown path
    let (key, afterKey) ← nodeAt doc fuel pos path depth false
    -- the message names the key already in the mapping
    if let some (stored, _) := acc.find? (YamlValue.same ·.1 key) then
      throw (.refused (duplicateMessage stored) none)
    let (value, after) ← nodeAt doc fuel afterKey keyPath depth false
    entriesFrom doc fuel budget after path depth ((key, value) :: acc)
termination_by budget _ _ _ _ => (fuel, budget + 1)
decreasing_by
  all_goals first
    | exact Prod.Lex.right _ (Nat.zero_lt_succ _)
    | exact Prod.Lex.right _ (Nat.lt_succ_self _)

end

/-- Enough nesting of calls for 128 collections, each behind an alias and a tag. -/
def loadFuel : Nat := 1024

/-- Loads the one document of a YAML text as a value. -/
def YamlValue.load (text : String) : Except LoadError YamlValue := do
  if let some offset := forbiddenAt? text then
    throw (.malformed { problem := "control characters are not allowed", offset })
  let reader := DocumentReader.ofString text
  let (first, reader) := reader.next
  let doc := first.getD {}
  let ((value, _), _) ← (nodeAt doc loadFuel 0 .root 128 false).run 0
  if let some e := doc.error then throw e
  match reader.next.1 with
  | some _ => throw .moreThanOneDocument
  | none => pure value

end Yaml

end FeatureFlags
