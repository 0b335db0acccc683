import FeatureFlags.Number.Binary

/-!
# JSON values

A JSON value keeps the three kinds of number a reader tells apart: an unsigned integer
below `2^64`, a negative integer down to `-2^63`, and a double. Objects are lists of
fields in the order they are written; a *dynamic* object (one read without a schema) is
kept with its keys sorted and without repeats, the last value of a repeated key winning.

* `Json.get?`: the value of the first field with a name;
* `Json.insertSorted`: adds a field to a sorted object, replacing an equal key.
-/

namespace FeatureFlags

/-- A JSON number as read: an unsigned or negative integer, or a double. -/
inductive JsonNumber where
  | unsigned (n : Nat)
  | negative (n : Int)
  | float (f : Float)
  deriving Repr, Inhabited

/-- A JSON value. -/
inductive Json where
  | null
  | bool (b : Bool)
  | number (n : JsonNumber)
  | string (s : String)
  | array (items : List Json)
  | object (fields : List (String × Json))
  deriving Repr, Inhabited

namespace JsonNumber

/-- The double of a number; integers are rounded to the nearest double. -/
def toFloat : JsonNumber → Float
  | .unsigned n => Float.ofRatio false n 1
  | .negative n => Float.ofRatio true n.natAbs 1
  | .float f => f

end JsonNumber

namespace Json

/-- The value of the first field named `key` of an object. -/
def get? (j : Json) (key : String) : Option Json :=
  match j with
  | .object fields => (fields.find? (·.1 == key)).map (·.2)
  | _ => none

/-- Inserts a field into an object sorted by key, replacing the value of an equal key. -/
def insertSorted (key : String) (value : Json) : List (String × Json) → List (String × Json)
  | [] => [(key, value)]
  | (k, v) :: rest =>
    if key < k then (key, value) :: (k, v) :: rest
    else if key = k then (key, value) :: rest
    else (k, v) :: insertSorted key value rest

/-- A string value, if it is one. -/
def getString? : Json → Option String
  | .string s => some s
  | _ => none

/-- A boolean value, if it is one. -/
def getBool? : Json → Option Bool
  | .bool b => some b
  | _ => none

/-- A natural number value, if it is one. -/
def getNat? : Json → Option Nat
  | .number (.unsigned n) => some n
  | _ => none

/-- An integer value, if it is one. -/
def getInt? : Json → Option Int
  | .number (.unsigned n) => some n
  | .number (.negative n) => some n
  | _ => none

/-- The items of an array, if it is one. -/
def getArray? : Json → Option (List Json)
  | .array items => some items
  | _ => none

/-- A double value: any number. -/
def getFloat? : Json → Option Float
  | .number n => some n.toFloat
  | _ => none

end Json

end FeatureFlags
