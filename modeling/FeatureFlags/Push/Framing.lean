import FeatureFlags.Text.Utf8

/-!
# Framing a push stream into events

A push stream is a text of lines: `field: value` lines set the fields of the next event,
a blank line sends it, and a line starting with `:` is a comment. The bytes come in
chunks cut anywhere; a `Framer` keeps the unfinished line and the fields read so far.

* lines end at a line feed, a carriage return and line feed, or a lone carriage return;
  a carriage return at the end of the bytes so far waits for the next chunk, which may
  bring its line feed;
* a line's bytes are decoded as UTF-8, each ill-formed sequence read as U+FFFD;
* the field name is the text before the first colon (the whole line without one), and
  one space after the colon is dropped;
* `event` names the event, `data` adds a line of data, `id` sets the last id unless the
  value holds a NUL, and `retry` sets the reconnect time when the value is an unsigned
  64-bit decimal (a leading `+` allowed); other fields are ignored;
* a blank line clears the event name and, if there is data, sends an event with the
  data lines joined by line feeds and the current id and retry time, which stay;
* a chunk that leaves more than 65536 bytes of an unfinished line fails: the framer
  starts over and the events of that chunk are lost.
-/

namespace FeatureFlags

/-- An event of a push stream. -/
structure PushEvent where
  /-- The event name; `none` is a plain message. -/
  kind : Option String
  data : String
  id : Option String
  retry : Option Nat
  deriving Inhabited

/-- A line that grew past the longest one accepted, with its length so far. -/
structure LineTooLong where
  pending : Nat

/-- The text of a line that grew too long. -/
def LineTooLong.message (e : LineTooLong) : String :=
  s!"unterminated line of {e.pending} bytes exceeds 65536"

/-- The state of a push stream between chunks. -/
structure Framer where
  /-- The bytes of the unfinished line. -/
  pending : List UInt8 := []
  kind : Option String := none
  /-- The data lines of the next event, in order. -/
  data : List String := []
  lastId : Option String := none
  retry : Option Nat := none
  deriving Inhabited

namespace Framer

/-- The longest unfinished line kept. -/
def maxLine : Nat := 65536

/-- Splits off the first complete line (`acc` holds its bytes so far, reversed): the
    line without its ending, and the bytes after it. -/
def splitLine : List UInt8 → List UInt8 → Option (List UInt8 × List UInt8)
  | [], _ => none
  | b :: rest, acc =>
    if b = 10 then some (acc.reverse, rest)
    else if b = 13 then
      match rest with
      | [] => none
      | c :: after => if c = 10 then some (acc.reverse, after) else some (acc.reverse, rest)
    else splitLine rest (b :: acc)

/-- Reads an unsigned 64-bit decimal with an optional leading `+`. -/
def parseRetry (s : String) : Option Nat :=
  let digits := match s.toList with
    | '+' :: rest => rest
    | cs => cs
  if digits.isEmpty || !digits.all Char.isDigit then none
  else
    let n := digits.foldl (fun acc c => acc * 10 + (c.toNat - 48)) 0
    if n < (Nat.pow 2 64) then some n else none

/-- Sends the event read so far, if it has data; the event name is cleared. -/
def dispatch (f : Framer) : Framer × Option PushEvent :=
  if f.data.isEmpty then ({ f with kind := none }, none)
  else
    ({ f with kind := none, data := [] },
      some ⟨f.kind, "\n".intercalate f.data, f.lastId, f.retry⟩)

/-- Reads one line. -/
def processLine (f : Framer) (line : String) : Framer × Option PushEvent :=
  match line.toList with
  | [] => f.dispatch
  | ':' :: _ => (f, none)
  | cs =>
    let field := String.ofList (cs.takeWhile (· ≠ ':'))
    let value := match cs.dropWhile (· ≠ ':') with
      | ':' :: ' ' :: v => String.ofList v
      | ':' :: v => String.ofList v
      | _ => ""
    if field = "event" then ({ f with kind := some value }, none)
    else if field = "data" then ({ f with data := f.data ++ [value] }, none)
    else if field = "id" then
      if value.toList.contains '\x00' then (f, none) else ({ f with lastId := some value }, none)
    else if field = "retry" then
      match parseRetry value with
      | some n => ({ f with retry := some n }, none)
      | none => (f, none)
    else (f, none)

/-- Reads the complete lines of the pending bytes, at most `fuel` of them; the events
    sent are accumulated in reverse. -/
def takeLines : Nat → Framer → List PushEvent → Framer × List PushEvent
  | 0, f, acc => (f, acc.reverse)
  | fuel + 1, f, acc =>
    match splitLine f.pending [] with
    | none => (f, acc.reverse)
    | some (line, rest) =>
      let (f, sent) := processLine { f with pending := rest } (Utf8.decodeLossy line)
      takeLines fuel f (match sent with
        | some e => e :: acc
        | none => acc)

/-- Feeds a chunk: the events it completes, or the error of a line too long, and the
    framer after it. -/
def push (f : Framer) (chunk : List UInt8) : Except LineTooLong (List PushEvent) × Framer :=
  let f := { f with pending := f.pending ++ chunk }
  -- every line takes at least one byte
  let (f, events) := takeLines (f.pending.length + 1) f []
  if f.pending.length > maxLine then (.error ⟨f.pending.length⟩, {})
  else (.ok events, f)

end Framer

end FeatureFlags
