import FeatureFlags.Json.Cursor

/-!
# Reading JSON text by shape

A `JsonShape` says what a JSON text must hold: a signed 64-bit integer, a double, a
boolean, a string, an optional value, a list, a record with named fields, or any value
at all. `JsonShape.parse` reads a whole text by a shape and returns the value it found,
or the first error with its text and place.

The rules that decide the error of a text with several faults:

* a value of the wrong kind is read whole before it is refused, so the error is placed
  after it (`invalid type: string "x", expected i64 at line 1 column 9`);
* a record is read as an object, or as an array of its fields in order; in an object,
  unknown fields are skipped, a repeated field fails as soon as its name is read, and
  missing fields are reported in declaration order once the object is closed;
* a data error (wrong kind, repeated or missing field, short array) is placed where the
  value around it ends, after its closing bracket has been looked for;
* arrays and objects nest at most 127 deep;
* after the value only blanks may follow.

A value read by shape keeps the fields of a record in declaration order and leaves out
the ones not given; a value of any shape (`dynamic`) keeps object keys sorted, a repeated
key taking its last value.
-/

namespace FeatureFlags

/-- What a JSON text must hold. -/
inductive JsonShape where
  /-- A signed 64-bit integer. -/
  | integer
  /-- A double: any number. -/
  | real
  | boolean
  | text
  /-- `null` or the inner shape. -/
  | optional (inner : JsonShape)
  | list (item : JsonShape)
  /-- A record: its name and its fields, each with a name, whether it may be left out
      (it has a default), and its shape. -/
  | record (name : String) (fields : List (String × Bool × JsonShape))
  /-- Any value. -/
  | dynamic
  deriving Inhabited

namespace JsonShape

open JsonReader

/-- How a data error names what a shape expects. -/
def expected : JsonShape → String
  | .integer => "i64"
  | .real => "f64"
  | .boolean => "a boolean"
  | .text => "a string"
  | .optional _ => "option"
  | .list _ => "a sequence"
  | .record name _ => "struct " ++ name
  | .dynamic => "any valid JSON value"

/-- A value found where another kind was expected: it is read whole, then refused. -/
def refuse (shape : JsonShape) : JsonReader α := do
  match ← peek with
  | some 110 => eat; expectLiteral ull; failData (.invalidType .null shape.expected)
  | some 116 => eat; expectLiteral rue; failData (.invalidType (.bool true) shape.expected)
  | some 102 => eat; expectLiteral alse; failData (.invalidType (.bool false) shape.expected)
  | some 45 => eat; refuseNumber (← readNumber false)
  | some 34 => eat; failData (.invalidType (.string (← readString)) shape.expected)
  | some 91 => failData (.invalidType .sequence shape.expected)
  | some 123 => failData (.invalidType .map shape.expected)
  | some b =>
    if isDigit b then refuseNumber (← readNumber true)
    else failAhead .expectedSomeValue
  | none => failAhead .expectedSomeValue
where
  /-- A number of the wrong kind. -/
  refuseNumber (n : JsonNumber) : JsonReader α :=
    match n with
    | .unsigned n => failData (.invalidType (.unsigned n) shape.expected)
    | .negative n => failData (.invalidType (.signed n) shape.expected)
    | .float f => failData (.invalidType (.float f) shape.expected)

/-- Opens an array or object at its bracket: one level less may follow. -/
def enter : JsonReader Unit := do
  let c ← get
  if c.depth - 1 = 0 then failAhead .recursionLimitExceeded
  else set { c with depth := c.depth - 1, rest := c.rest }
  eat

/-- Leaves an array or object. -/
def leave : JsonReader Unit :=
  modify fun c => { c with depth := c.depth + 1 }

/-- Whether another array item follows; `first` before the first one. -/
def hasNextItem (first : Bool) : JsonReader Bool := do
  match ← peekAfterBlanks with
  | none => failAhead .eofWhileParsingList
  | some 93 => return false
  | some 44 =>
    if first then return true
    else
      eat
      match ← peekAfterBlanks with
      | some 93 => failAhead .trailingComma
      | some _ => return true
      | none => failAhead .eofWhileParsingValue
  | some _ => if first then return true else failAhead .expectedListCommaOrEnd

/-- Whether another object key follows; `first` before the first one. -/
def hasNextKey (first : Bool) : JsonReader Bool := do
  match ← peekAfterBlanks with
  | none => failAhead .eofWhileParsingObject
  | some 125 => return false
  | some 34 => if first then return true else failAhead .expectedObjectCommaOrEnd
  | some 44 =>
    if first then failAhead .keyMustBeAString
    else
      eat
      match ← peekAfterBlanks with
      | some 34 => return true
      | some 125 => failAhead .trailingComma
      | some _ => failAhead .keyMustBeAString
      | none => failAhead .eofWhileParsingValue
  | some _ => if first then failAhead .keyMustBeAString else failAhead .expectedObjectCommaOrEnd

/-- An object key, at its opening quote. -/
def readKey : JsonReader String := do
  eat
  readString

/-- The colon after an object key. -/
def readColon : JsonReader Unit := do
  match ← peekAfterBlanks with
  | some 58 => eat
  | some _ => failAhead .expectedColon
  | none => failAhead .eofWhileParsingObject

/-- The end of an array. -/
def closeList : JsonReader Unit := do
  match ← peekAfterBlanks with
  | some 93 => eat
  | some 44 =>
    eat
    match ← peekAfterBlanks with
    | some 93 => failAhead .trailingComma
    | _ => failAhead .trailingCharacters
  | some _ => failAhead .trailingCharacters
  | none => failAhead .eofWhileParsingList

/-- The end of an object. -/
def closeObject : JsonReader Unit := do
  match ← peekAfterBlanks with
  | some 125 => eat
  | some 44 => failAhead .trailingComma
  | some _ => failAhead .trailingCharacters
  | none => failAhead .eofWhileParsingObject

/-- Reads the inside of an array or object with `body`, leaves it and looks for its
    end with `close`. The end is looked for even when the inside failed, and the first
    error wins. -/
def within (body : JsonReader α) (close : JsonReader Unit) : JsonReader α := do
  enter
  let inside ← attempt body
  leave
  let ending ← attempt close
  match inside, ending with
  | .ok v, .ok () => return v
  | .error e, _ => throw e
  | .ok _, .error e => throw e

/-- A signed 64-bit integer from a number read. -/
def integerOf : JsonNumber → JsonReader Json
  | .unsigned n =>
    if n < (Nat.pow 2 63) then return .number (.unsigned n)
    else failData (.invalidValue (.unsigned n) "i64")
  | .negative n => return .number (.negative n)
  | .float f => failData (.invalidType (.float f) "i64")

/-- The first field of a record that is missing and has no default. -/
def firstMissing (present : List (String × Json)) :
    List (String × Bool × JsonShape) → Option String
  | [] => none
  | (name, defaulted, shape) :: rest =>
    let optional := match shape with
      | .optional _ => true
      | _ => false
    if (present.lookup name).isNone && !defaulted && !optional then some name
    else firstMissing present rest

/-- The fields given, in declaration order. -/
def inOrder (present : List (String × Json)) (fields : List (String × Bool × JsonShape)) :
    List (String × Json) :=
  fields.filterMap fun (name, _, _) => (present.lookup name).map (name, ·)

/-- The shape of a record field. -/
def fieldShape? (fields : List (String × Bool × JsonShape)) (key : String) :
    Option JsonShape :=
  (fields.find? (·.1 == key)).map (·.2.2)

mutual

/-- Reads a value of a shape; `fuel` bounds the nesting of calls, and a few times the
    length of the text is enough (see `parse`). -/
def readBy : Nat → JsonShape → JsonReader Json
  | 0, _ => failHere .eofWhileParsingValue
  | fuel + 1, shape => placed do
    match ← peekAfterBlanks with
    | none => failAhead .eofWhileParsingValue
    | some b =>
      match shape with
      | .integer =>
        if b = 45 then eat; integerOf (← readNumber false)
        else if isDigit b then integerOf (← readNumber true)
        else refuse shape
      | .real =>
        if b = 45 then eat; return .number (.float (← readNumber false).toFloat)
        else if isDigit b then return .number (.float (← readNumber true).toFloat)
        else refuse shape
      | .boolean =>
        if b = 116 then eat; expectLiteral rue; return .bool true
        else if b = 102 then eat; expectLiteral alse; return .bool false
        else refuse shape
      | .text =>
        if b = 34 then eat; return .string (← readString)
        else refuse shape
      | .optional inner =>
        if b = 110 then eat; expectLiteral ull; return .null
        else readBy fuel inner
      | .list item =>
        if b = 91 then
          within (do return .array (← readItems fuel item true [])) closeList
        else refuse shape
      | .record name fields =>
        if b = 91 then
          within (do return .object (← readFieldsInOrder fuel name fields fields 0 true []))
            closeList
        else if b = 123 then
          within (do return .object (← readFields fuel name fields true [])) closeObject
        else refuse shape
      | .dynamic => readAny fuel

/-- The items of an array, accumulated in reverse. -/
def readItems : Nat → JsonShape → Bool → List Json → JsonReader (List Json)
  | 0, _, _, _ => failHere .eofWhileParsingValue
  | fuel + 1, item, first, acc => do
    if ← hasNextItem first then
      let v ← readBy fuel item
      readItems fuel item false (v :: acc)
    else return acc.reverse

/-- The fields of a record written as an object. -/
def readFields : Nat → String → List (String × Bool × JsonShape) → Bool →
    List (String × Json) → JsonReader (List (String × Json))
  | 0, _, _, _, _ => failHere .eofWhileParsingValue
  | fuel + 1, name, fields, first, acc => do
    if ← hasNextKey first then
      let key ← readKey
      match fieldShape? fields key with
      | some shape =>
        if (acc.lookup key).isSome then failData (.data s!"duplicate field `{key}`")
        else
          readColon
          let v ← readBy fuel shape
          readFields fuel name fields false ((key, v) :: acc)
      | none =>
        readColon
        skipValue
        readFields fuel name fields false acc
    else
      match firstMissing acc fields with
      | some missing => failData (.data s!"missing field `{missing}`")
      | none => return inOrder acc fields

/-- The fields of a record written as an array, in declaration order; `index` counts
    the fields read, `all` is the whole list of fields. -/
def readFieldsInOrder : Nat → String → List (String × Bool × JsonShape) →
    List (String × Bool × JsonShape) → Nat → Bool → List (String × Json) →
    JsonReader (List (String × Json))
  | 0, _, _, _, _, _, _ => failHere .eofWhileParsingValue
  | _ + 1, _, _, [], _, _, acc => return acc.reverse
  | fuel + 1, name, all, (key, defaulted, shape) :: rest, index, first, acc => do
    if ← hasNextItem first then
      let v ← readBy fuel shape
      readFieldsInOrder fuel name all rest (index + 1) false ((key, v) :: acc)
    else if defaulted then
      readFieldsInOrder fuel name all rest (index + 1) first acc
    else
      failData (.data
        s!"invalid length {index}, expected struct {name} with {all.length} elements")

/-- Any value; objects keep their keys sorted. -/
def readAny : Nat → JsonReader Json
  | 0 => failHere .eofWhileParsingValue
  | fuel + 1 => placed do
    match ← peekAfterBlanks with
    | none => failAhead .eofWhileParsingValue
    | some 110 => eat; expectLiteral ull; return .null
    | some 116 => eat; expectLiteral rue; return .bool true
    | some 102 => eat; expectLiteral alse; return .bool false
    | some 45 => eat; return .number (← readNumber false)
    | some 34 => eat; return .string (← readString)
    | some 91 => within (do return .array (← readAnyItems fuel true [])) closeList
    | some 123 => within (do return .object (← readAnyFields fuel true [])) closeObject
    | some b =>
      if isDigit b then return .number (← readNumber true)
      else failAhead .expectedSomeValue

/-- The items of an array of any values, accumulated in reverse. -/
def readAnyItems : Nat → Bool → List Json → JsonReader (List Json)
  | 0, _, _ => failHere .eofWhileParsingValue
  | fuel + 1, first, acc => do
    if ← hasNextItem first then
      let v ← readAny fuel
      readAnyItems fuel false (v :: acc)
    else return acc.reverse

/-- The fields of an object of any values, sorted by key. -/
def readAnyFields : Nat → Bool → List (String × Json) → JsonReader (List (String × Json))
  | 0, _, _ => failHere .eofWhileParsingValue
  | fuel + 1, first, acc => do
    if ← hasNextKey first then
      let key ← readKey
      readColon
      let v ← readAny fuel
      readAnyFields fuel false (Json.insertSorted key v acc)
    else return acc

end

/-- Reads a whole text by a shape. Every nested call reads a byte, opens a record field
    or an optional value, so eight calls per byte are more than enough. -/
def parseBytes (shape : JsonShape) (bytes : List UInt8) : Except JsonError Json :=
  let reader : JsonReader Json := do
    let v ← readBy (8 * bytes.length + 16) shape
    match ← peekAfterBlanks with
    | some _ => failAhead .trailingCharacters
    | none => return v
  (reader.run.run (Cursor.start bytes)).1

/-- Reads a whole text by a shape. -/
def parse (shape : JsonShape) (text : String) : Except JsonError Json :=
  parseBytes shape (Utf8.encode text)

end JsonShape

end FeatureFlags
