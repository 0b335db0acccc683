import FeatureFlags.Yaml.Event.Stream

/-!
# YAML documents as event lists

A document is the list of its node events, each with the mark where it starts; an alias
points at the index of the event that carries its anchor (the latest one of that name
before it). Reading a document stops at its end, at the end of the stream, or at the
first error, which is kept with the events read so far: a reader of the document meets
the error only if it needs the events that are missing.

An empty stream is one document holding a single `void` event.
-/

namespace FeatureFlags

namespace Yaml

/-- Why YAML text cannot be loaded. -/
inductive LoadError where
  | malformed (e : SyntaxError)
  | unknownAnchor (mark : Mark)
  | moreThanOneDocument
  | recursionLimit (mark : Mark)
  | repetitionLimit
  | endOfStream
  /-- A refused value, with the mark and path of the node, once known. -/
  | refused (message : String) (place : Option (Mark × String))
  deriving Repr, Inhabited

/-- Appends a mark to a message, unless it is the very start. -/
def withMark (message : String) (mark : Mark) : String :=
  if mark.isStart then message else s!"{message} at {mark.text}"

/-- The text of a load error. -/
def LoadError.message : LoadError → String
  | .malformed e => e.message
  | .unknownAnchor mark => withMark "unknown anchor" mark
  | .moreThanOneDocument =>
    "deserializing from YAML containing more than one document is not supported"
  | .recursionLimit mark => withMark "recursion limit exceeded" mark
  | .repetitionLimit => "repetition limit exceeded"
  | .endOfStream => "EOF while parsing a value"
  | .refused message none => message
  | .refused message (some (mark, path)) =>
    withMark ((if path == "." then "" else path ++ ": ") ++ message) mark

/-- A node event of a document. -/
inductive NodeEvent where
  | alias (target : Nat)
  | scalar (tag : Option String) (text : String) (style : ScalarStyle)
  | sequenceStart (tag : Option String)
  | sequenceEnd
  | mappingStart (tag : Option String)
  | mappingEnd
  /-- The content of an empty stream. -/
  | void
  deriving Repr, Inhabited

/-- The events of a document, and the error that cut it short. -/
structure Document where
  events : Array (NodeEvent × Mark) := #[]
  error : Option LoadError := none
  deriving Inhabited

/-- Reads the documents of a stream one after another. -/
structure DocumentReader where
  events : EventStream
  /-- Set once the end of the stream has been read. -/
  done : Bool := false
  /-- The number of documents begun. -/
  begun : Nat := 0
  deriving Inhabited

/-- The first byte offset of a character that YAML text may not hold, if there is one. -/
def forbiddenAt? (text : String) : Option Nat :=
  let rec go : List Char → Nat → Option Nat
    | [], _ => none
    | c :: rest, offset =>
      if Chars.isAllowed c || (offset == 0 && c == '\uFEFF') then go rest (offset + c.utf8Size)
      else some offset
  go text.toList 0

namespace DocumentReader

/-- A reader of YAML text. -/
def ofString (text : String) : DocumentReader := { events := { tokens := TokenStream.ofString text } }

/-- Reads the next document, or none at the end of the stream (an empty stream still has
    one document). -/
def next (r : DocumentReader) : Option Document × DocumentReader := Id.run do
  if r.done then return (none, r)
  let first := r.begun == 0
  let mut r := { r with begun := r.begun + 1 }
  let mut doc : Document := {}
  let mut anchors : List (String × Nat) := []
  for _ in [0:8 * r.events.tokens.budget + 16] do
    match EventStream.next.run r.events with
    | .error e => return (some { doc with error := some (.malformed e) }, r)
    | .ok (none, events) =>
      r := { r with events, done := true }
      return (if first then some doc else none, r)
    | .ok (some event, events) =>
      r := { r with events }
      let mark := event.start
      let index := doc.events.size
      let anchored (anchor : Option String) : List (String × Nat) :=
        match anchor with
        | some name => (name, index) :: anchors
        | none => anchors
      match event.kind with
      | .streamStart | .documentStart _ => pure ()
      | .streamEnd =>
        r := { r with done := true }
        if first && doc.events.isEmpty then doc := { doc with events := #[(.void, mark)] }
        return (if first then some doc else none, r)
      | .documentEnd _ => return (some doc, r)
      | .alias name =>
        match anchors.lookup name with
        | some target => doc := { doc with events := doc.events.push (.alias target, mark) }
        | none => return (some { doc with error := some (.unknownAnchor mark) }, r)
      | .scalar anchor tag text style =>
        anchors := anchored anchor
        doc := { doc with events := doc.events.push (.scalar tag text style, mark) }
      | .sequenceStart anchor tag _ =>
        anchors := anchored anchor
        doc := { doc with events := doc.events.push (.sequenceStart tag, mark) }
      | .sequenceEnd => doc := { doc with events := doc.events.push (.sequenceEnd, mark) }
      | .mappingStart anchor tag _ =>
        anchors := anchored anchor
        doc := { doc with events := doc.events.push (.mappingStart tag, mark) }
      | .mappingEnd => doc := { doc with events := doc.events.push (.mappingEnd, mark) }
  return (some doc, r)

end DocumentReader

end Yaml

end FeatureFlags
