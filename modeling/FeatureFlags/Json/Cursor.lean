import FeatureFlags.Json.Error
import FeatureFlags.Number.Decimal
import FeatureFlags.Text.Utf8

/-!
# Reading JSON text: the lexical layer

A `Cursor` is a place in the bytes of a JSON text: the bytes left, the line and column of
the next byte, and how many more arrays or objects may be opened (128 at the start, so
that the 128th nested one is refused). A `JsonReader` reads from a cursor and may fail with a
`JsonError`; a failure keeps the cursor where it happened, since a data error takes the
place of the end of its enclosing value.

Errors found at a byte are placed either after the bytes read so far (`failHere`) or one
byte further, after the byte looked at (`failAhead`).

* blanks: space, tab, newline and carriage return;
* literals `null`, `true`, `false` (`expectLiteral`);
* numbers (`readNumber`): an integer that fits is kept as an integer; a longer one, or one
  with a fraction or exponent, becomes a double by `Float.scaleDecimal?`;
* strings (`readString`) with all escapes, surrogate pairs required to be paired;
* skipping a whole value without building it (`skipValue`), which checks the syntax but
  neither the nesting depth nor the range of numbers.
-/

namespace FeatureFlags

/-- A place in JSON text. -/
structure Cursor where
  rest : List UInt8
  line : Nat
  column : Nat
  depth : Nat
  deriving Repr

namespace Cursor

/-- The start of a text. -/
def start (bytes : List UInt8) : Cursor := ⟨bytes, 1, 0, 128⟩

/-- Line and column of the next byte. -/
def position (c : Cursor) : Nat × Nat := (c.line, c.column)

/-- Steps over one byte. -/
def advance (c : Cursor) : Cursor :=
  match c.rest with
  | [] => c
  | b :: rest =>
    if b = 10 then { c with rest := rest, line := c.line + 1, column := 0 }
    else { c with rest := rest, column := c.column + 1 }

/-- Steps over `n` bytes. -/
def advanceBy : Nat → Cursor → Cursor
  | 0, c => c
  | n + 1, c => advanceBy n c.advance

/-- The position one byte further, or here at the end. -/
def positionAhead (c : Cursor) : Nat × Nat := c.advance.position

/-- Whether a byte is a JSON blank. -/
def isBlank (b : UInt8) : Bool := b = 32 || b = 9 || b = 10 || b = 13

/-- Steps over blanks. -/
def skipBlanks (c : Cursor) : Cursor :=
  go c.rest.length c
where
  /-- At most `fuel` blanks are stepped over. -/
  go : Nat → Cursor → Cursor
    | 0, c => c
    | fuel + 1, c =>
      match c.rest with
      | b :: _ => if isBlank b then go fuel c.advance else c
      | [] => c

end Cursor

/-- A reader of JSON text. -/
abbrev JsonReader := ExceptT JsonError (StateM Cursor)

namespace JsonReader

/-- The next byte, not read. -/
def peek : JsonReader (Option UInt8) := do
  return (← get).rest.head?

/-- Reads one byte. -/
def eat : JsonReader Unit :=
  modify Cursor.advance

/-- Reads `n` bytes. -/
def eatN (n : Nat) : JsonReader Unit :=
  modify (Cursor.advanceBy n)

/-- Reads and returns the next byte. -/
def next : JsonReader (Option UInt8) := do
  let b ← peek
  eat
  return b

/-- Steps over blanks and looks at the next byte. -/
def peekAfterBlanks : JsonReader (Option UInt8) := do
  modify Cursor.skipBlanks
  peek

/-- Fails at the place after the bytes read. -/
def failHere (code : JsonErrorCode) : JsonReader α := do
  throw ⟨code, some (← get).position⟩

/-- Fails one byte further. -/
def failAhead (code : JsonErrorCode) : JsonReader α := do
  throw ⟨code, some (← get).positionAhead⟩

/-- Fails with a data error, placed later. -/
def failData (code : JsonErrorCode) : JsonReader α :=
  throw ⟨code, none⟩

/-- Places an unplaced error here. -/
def place (e : JsonError) : JsonReader JsonError := do
  match e.position with
  | some _ => return e
  | none => return { e with position := some (← get).position }

/-- Runs a reader and places a data error it raises at the place where it stopped. -/
def placed (r : JsonReader α) : JsonReader α :=
  tryCatch r fun e => do throw (← place e)

/-- Runs a reader and returns its outcome instead of failing. -/
def attempt (r : JsonReader α) : JsonReader (Except JsonError α) :=
  tryCatch (do return .ok (← r)) fun e => return .error e

/-- Reads the rest of a literal after its first byte. -/
def expectLiteral : List UInt8 → JsonReader Unit
  | [] => pure ()
  | b :: bs => do
    match ← next with
    | none => failHere .eofWhileParsingValue
    | some c => if c = b then expectLiteral bs else failHere .expectedSomeIdent

/-- The bytes `ull`, `rue` and `alse`. -/
def ull : List UInt8 := [117, 108, 108]
def rue : List UInt8 := [114, 117, 101]
def alse : List UInt8 := [97, 108, 115, 101]

/-- Whether a byte is an ASCII digit. -/
def isDigit (b : UInt8) : Bool := 48 ≤ b && b ≤ 57

/-- The value of a digit byte. -/
def digitValue (b : UInt8) : Nat := b.toNat - 48

/-- The largest significand kept as an integer. -/
def maxSignificand : Nat := (Nat.pow 2 64) - 1

/-- The largest exponent kept as such. -/
def maxExponent : Nat := (Nat.pow 2 31) - 1

/-- Whether `acc * 10 + d` passes `limit`. -/
def overflows (acc d limit : Nat) : Bool :=
  acc ≥ limit / 10 && (acc > limit / 10 || d > limit % 10)

/-- Accumulates digits while they fit below `limit`: the value, how many digits were
    taken, and whether a digit was left because it would not fit. -/
def digitsWithin (limit : Nat) : List UInt8 → Nat → Nat → Nat × Nat × Bool
  | b :: rest, acc, count =>
    if isDigit b then
      if overflows acc (digitValue b) limit then (acc, count, true)
      else digitsWithin limit rest (acc * 10 + digitValue b) (count + 1)
    else (acc, count, false)
  | [], acc, count => (acc, count, false)

/-- The number of digits at the front of a byte list. -/
def digitCount : List UInt8 → Nat → Nat
  | b :: rest, count => if isDigit b then digitCount rest (count + 1) else count
  | [], count => count

/-- Clamps an exponent to the 32-bit range. -/
def clampExponent (e : Int) : Int :=
  max (-(Int.pow 2 31)) (min e ((Int.pow 2 31) - 1))

/-- The double of a decimal, or an out-of-range error here. -/
def fromParts (positive : Bool) (significand : Nat) (exponent : Int) : JsonReader Float :=
  match Float.scaleDecimal? (!positive) significand exponent with
  | some f => pure f
  | none => failHere .numberOutOfRange

/-- An exponent too long for 32 bits: out of range if it would make a nonzero value
    larger, otherwise zero. -/
def exponentOverflow (positive zeroSignificand positiveExp : Bool) : JsonReader Float := do
  if !zeroSignificand && positiveExp then failHere .numberOutOfRange
  else
    eatN (digitCount (← get).rest 0)
    return (if positive then 0.0 else -0.0)

/-- The exponent part, starting at `e` or `E`. -/
def readExponent (positive : Bool) (significand : Nat) (start : Int) : JsonReader Float := do
  eat
  let positiveExp ← do
    match ← peek with
    | some 43 => eat; pure true
    | some 45 => eat; pure false
    | _ => pure true
  match ← next with
  | none => failHere .eofWhileParsingValue
  | some c =>
    if !isDigit c then failHere .invalidNumber
    else
      let (exp, count, overflowed) := digitsWithin maxExponent (← get).rest (digitValue c) 0
      eatN count
      if overflowed then
        eat
        exponentOverflow positive (significand = 0) positiveExp
      else
        let final := clampExponent (if positiveExp then start + exp else start - exp)
        fromParts positive significand final

/-- Digits after a significand that no longer fits are dropped. -/
def afterOverflow (positive : Bool) (significand : Nat) (exponent : Int) : JsonReader Float := do
  eatN (digitCount (← get).rest 0)
  match ← peek with
  | some 101 | some 69 => readExponent positive significand exponent
  | _ => fromParts positive significand exponent

/-- The fraction part, starting at the point. -/
def readFraction (positive : Bool) (significand : Nat) (before : Int) : JsonReader Float := do
  eat
  let (sig, count, overflowed) := digitsWithin maxSignificand (← get).rest significand 0
  eatN count
  let exponent : Int := before - count
  if overflowed then afterOverflow positive sig exponent
  else if count = 0 then
    match ← peek with
    | some _ => failAhead .invalidNumber
    | none => failAhead .eofWhileParsingValue
  else
    match ← peek with
    | some 101 | some 69 => readExponent positive sig exponent
    | _ => fromParts positive sig exponent

/-- An integer part too long for 64 bits: the extra digits only raise the exponent. -/
def readLongInteger (positive : Bool) (significand : Nat) : JsonReader Float := do
  let extra := digitCount (← get).rest 0
  eatN extra
  match ← peek with
  | some 46 => readFraction positive significand extra
  | some 101 | some 69 => readExponent positive significand extra
  | _ => fromParts positive significand extra

/-- What follows the integer part. -/
def readAfterInteger (positive : Bool) (significand : Nat) : JsonReader JsonNumber := do
  match ← peek with
  | some 46 => return .float (← readFraction positive significand 0)
  | some 101 | some 69 => return .float (← readExponent positive significand 0)
  | _ =>
    if positive then return .unsigned significand
    else if significand = 0 then return .float (-0.0)
    else if significand ≤ (Nat.pow 2 63) then return .negative (-(significand : Int))
    else return .float (Float.ofRatio true significand 1)

/-- A number after its sign. -/
def readNumber (positive : Bool) : JsonReader JsonNumber := do
  match ← next with
  | none => failHere .eofWhileParsingValue
  | some 48 =>
    match ← peek with
    | some b => if isDigit b then failAhead .invalidNumber else readAfterInteger positive 0
    | none => readAfterInteger positive 0
  | some c =>
    if isDigit c then
      let (sig, count, overflowed) := digitsWithin maxSignificand (← get).rest (digitValue c) 0
      eatN count
      if overflowed then return .float (← readLongInteger positive sig)
      else readAfterInteger positive sig
    else failHere .invalidNumber

/-- The value of a hexadecimal digit byte. -/
def hexValue? (b : UInt8) : Option Nat :=
  if 48 ≤ b && b ≤ 57 then some (b.toNat - 48)
  else if 97 ≤ b && b ≤ 102 then some (b.toNat - 87)
  else if 65 ≤ b && b ≤ 70 then some (b.toNat - 55)
  else none

/-- Four hexadecimal digits: at least four bytes must be left (else the text ends inside
    the string), and all four are read before they are checked. -/
def readHexQuad : JsonReader Nat := do
  match (← get).rest with
  | a :: b :: c :: d :: _ =>
    eatN 4
    match hexValue? a, hexValue? b, hexValue? c, hexValue? d with
    | some a, some b, some c, some d => return ((a * 16 + b) * 16 + c) * 16 + d
    | _, _, _, _ => failHere .invalidEscape
  | rest =>
    eatN rest.length
    failHere .eofWhileParsingString

/-- The UTF-8 bytes of a scalar value. -/
def scalarBytes (n : Nat) : List UInt8 :=
  Utf8.encodeChar (Char.ofNat n)

/-- A `\u` escape after the `u`; a leading surrogate must be followed by an escaped
    trailing one. -/
def readUnicodeEscape : JsonReader (List UInt8) := do
  let n ← readHexQuad
  if 0xDC00 ≤ n && n ≤ 0xDFFF then failHere .loneLeadingSurrogateInHexEscape
  else if n < 0xD800 || n > 0xDBFF then return scalarBytes n
  else
    match ← next with
    | none => failHere .eofWhileParsingString
    | some 92 =>
      match ← next with
      | none => failHere .eofWhileParsingString
      | some 117 =>
        let n2 ← readHexQuad
        if n2 < 0xDC00 || n2 > 0xDFFF then failHere .loneLeadingSurrogateInHexEscape
        else return scalarBytes (((n - 0xD800) * 0x400 + (n2 - 0xDC00)) + 0x10000)
      | some _ => failHere .unexpectedEndOfHexEscape
    | some _ => failHere .unexpectedEndOfHexEscape

/-- One escape after the backslash. -/
def readEscape : JsonReader (List UInt8) := do
  match ← next with
  | none => failHere .eofWhileParsingString
  | some 34 => return [34]
  | some 92 => return [92]
  | some 47 => return [47]
  | some 98 => return [8]
  | some 102 => return [12]
  | some 110 => return [10]
  | some 114 => return [13]
  | some 116 => return [9]
  | some 117 => readUnicodeEscape
  | some _ => failHere .invalidEscape

/-- The plain bytes of a string up to a quote, backslash or control byte. -/
def plainRun : List UInt8 → Nat → Nat
  | b :: rest, count => if b = 34 || b = 92 || b < 0x20 then count else plainRun rest (count + 1)
  | [], count => count

/-- String content up to the closing quote, accumulated in reverse; `fuel` bounds the
    pieces read and the length of the text is enough. -/
def readStringFrom : Nat → List UInt8 → JsonReader (List UInt8)
  | 0, _ => failHere .eofWhileParsingString
  | fuel + 1, acc => do
    let rest := (← get).rest
    let run := plainRun rest 0
    let acc := (rest.take run).reverse ++ acc
    eatN run
    match ← peek with
    | none => failHere .eofWhileParsingString
    | some 34 => eat; return acc
    | some 92 => eat; readStringFrom fuel ((← readEscape).reverse ++ acc)
    | some _ => eat; failHere .controlCharacterWhileParsingString

/-- A string after its opening quote. Its bytes must be UTF-8. -/
def readString : JsonReader String := do
  let bytes := (← readStringFrom ((← get).rest.length + 1) []).reverse
  match Utf8.validate bytes with
  | .ok s => return s
  | .error _ => failHere .invalidUnicodeCodePoint

/-- Skips an escape after the backslash. -/
def skipEscape : JsonReader Unit := do
  match ← next with
  | none => failHere .eofWhileParsingString
  | some b =>
    if b = 34 || b = 92 || b = 47 || b = 98 || b = 102 || b = 110 || b = 114 || b = 116 then
      pure ()
    else if b = 117 then discard readHexQuad
    else failHere .invalidEscape

/-- Skips string content up to the closing quote; a control byte is reported before it
    is read. -/
def skipStringFrom : Nat → JsonReader Unit
  | 0 => failHere .eofWhileParsingString
  | fuel + 1 => do
    eatN (plainRun (← get).rest 0)
    match ← peek with
    | none => failHere .eofWhileParsingString
    | some 34 => eat
    | some 92 => eat; skipEscape; skipStringFrom fuel
    | some _ => failHere .controlCharacterWhileParsingString

/-- Skips a string after its opening quote. -/
def skipString : JsonReader Unit := do
  skipStringFrom ((← get).rest.length + 1)

/-- Skips an exponent, starting at `e` or `E`. -/
def skipExponent : JsonReader Unit := do
  eat
  match ← peek with
  | some 43 | some 45 => eat
  | _ => pure ()
  match ← next with
  | some b =>
    if isDigit b then eatN (digitCount (← get).rest 0)
    else failHere .invalidNumber
  | none => failHere .invalidNumber

/-- Skips a number after its sign, checking its syntax only. -/
def skipNumber : JsonReader Unit := do
  match ← peek with
  | some 48 =>
    eat
    match ← peek with
    | some b => if isDigit b then failAhead .invalidNumber else pure ()
    | none => pure ()
  | some b =>
    eat
    if isDigit b then eatN (digitCount (← get).rest 0)
    else failHere .invalidNumber
  | none => failHere .invalidNumber
  match ← peek with
  | some 46 =>
    eat
    let count := digitCount (← get).rest 0
    if count = 0 then failAhead .invalidNumber
    else
      eatN count
      match ← peek with
      | some 101 | some 69 => skipExponent
      | _ => pure ()
  | some 101 | some 69 => skipExponent
  | _ => pure ()

/-- Skips one scalar value or opens a container: `some` bracket when an array (`[`) or
    object (`{`) was opened. -/
def skipScalarOrOpen : JsonReader (Option UInt8) := do
  match ← peekAfterBlanks with
  | none => failAhead .eofWhileParsingValue
  | some 110 => eat; expectLiteral ull; return none
  | some 116 => eat; expectLiteral rue; return none
  | some 102 => eat; expectLiteral alse; return none
  | some 45 => eat; skipNumber; return none
  | some 34 => eat; skipString; return none
  | some b =>
    if isDigit b then skipNumber; return none
    else if b = 91 || b = 123 then eat; return some b
    else failAhead .expectedSomeValue

/-- After the key of a skipped object field: the colon. -/
def skipKeyAndColon : JsonReader Unit := do
  match ← peekAfterBlanks with
  | some 34 => eat
  | some _ => failAhead .keyMustBeAString
  | none => failAhead .eofWhileParsingObject
  skipString
  match ← peekAfterBlanks with
  | some 58 => eat
  | some _ => failAhead .expectedColon
  | none => failAhead .eofWhileParsingObject

/-- Closes finished containers after a value inside `frames` (innermost first): returns
    the frames still open once a comma moves on to the next value, or `none` when the
    outermost container is closed. `fuel` bounds the closings. -/
def closeFrames : Nat → List UInt8 → JsonReader (Option (List UInt8))
  | 0, _ => failHere .eofWhileParsingValue
  | _, [] => return none
  | fuel + 1, frame :: outer => do
    match ← peekAfterBlanks with
    | some 44 => eat; return some (frame :: outer)
    | some 93 =>
      if frame = 91 then eat; closeFrames fuel outer
      else failAhead .expectedObjectCommaOrEnd
    | some 125 =>
      if frame = 123 then eat; closeFrames fuel outer
      else failAhead .expectedListCommaOrEnd
    | some _ =>
      failAhead (if frame = 91 then .expectedListCommaOrEnd else .expectedObjectCommaOrEnd)
    | none =>
      failAhead (if frame = 91 then .eofWhileParsingList else .eofWhileParsingObject)

/-- Skipping with an explicit stack of open containers (innermost first); `fuel` bounds
    the values read, and the length of the text is enough. -/
def skipFrom : Nat → List UInt8 → JsonReader Unit
  | 0, _ => failHere .eofWhileParsingValue
  | fuel + 1, frames => do
    match ← skipScalarOrOpen with
    | some bracket =>
      -- a new container: it may close at once
      let closer : UInt8 := if bracket = 91 then 93 else 125
      match ← peekAfterBlanks with
      | some b =>
        if b = closer then
          eat
          match ← closeFrames (fuel + 1) frames with
          | some open_ =>
            if open_.head? = some 123 then skipKeyAndColon
            skipFrom fuel open_
          | none => pure ()
        else
          if bracket = 123 then skipKeyAndColon
          skipFrom fuel (bracket :: frames)
      | none =>
        failAhead (if bracket = 91 then .eofWhileParsingList else .eofWhileParsingObject)
    | none =>
      match ← closeFrames (fuel + 1) frames with
      | some open_ =>
        if open_.head? = some 123 then skipKeyAndColon
        skipFrom fuel open_
      | none => pure ()

/-- Skips one whole value. -/
def skipValue : JsonReader Unit := do
  skipFrom ((← get).rest.length + 1) []

end JsonReader

end FeatureFlags
