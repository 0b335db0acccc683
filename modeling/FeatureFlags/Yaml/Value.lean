import FeatureFlags.Number.Layout
import FeatureFlags.Text.Escaped

/-!
# YAML values

A loaded YAML document: null, a boolean, a number, a string, a sequence, a mapping (its
pairs in document order, keys unique) or a tagged value.

Numbers are integers that fit 64 bits (non-negative ones as `natural`, negative ones as
`negative`) or doubles. Two keys are the same when they are equal values, where all NaNs
are equal, `0.0` equals `-0.0`, an integer never equals a double, mappings are equal
whatever their order, and tags are compared without a leading `!`.
-/

namespace FeatureFlags

namespace Yaml

/-- A YAML number. -/
inductive YamlNumber where
  | natural (n : Nat)
  | negative (n : Int)
  | real (x : Float)
  deriving Inhabited

/-- A YAML value. -/
inductive YamlValue where
  | null
  | bool (b : Bool)
  | number (n : YamlNumber)
  | string (s : String)
  | sequence (items : List YamlValue)
  | mapping (entries : List (YamlValue × YamlValue))
  | tagged (tag : String) (value : YamlValue)
  deriving Inhabited

/-- Doubles in YAML text: shortest digits, positional from `1e-5` up to below `1e16`
    with `.0` on an integral value, otherwise with an unsigned positive exponent. -/
def FloatLayout.yaml : FloatLayout where
  alwaysPositional := false
  minPoint := -5
  maxPoint := 16
  pointZero := true
  plusExponent := false
  nanText := ".nan"
  infinityText := ".inf"

namespace YamlNumber

/-- The integer of a number that is one. -/
def ofInt (n : Int) : YamlNumber := if n < 0 then .negative n else .natural n.toNat

/-- Whether two numbers are equal as keys. -/
def same : YamlNumber → YamlNumber → Bool
  | .natural a, .natural b => a == b
  | .negative a, .negative b => a == b
  | .real a, .real b => (a.isNaN && b.isNaN) || a == b
  | _, _ => false

/-- The YAML text of a number. -/
def text : YamlNumber → String
  | .natural n => toString n
  | .negative n => toString n
  | .real x => FloatLayout.yaml.render x

end YamlNumber

/-- A tag without its leading `!`, unless it is only `!`. -/
def tagName (tag : String) : String :=
  if tag.startsWith "!" && tag.length > 1 then String.ofList (tag.toList.drop 1) else tag

namespace YamlValue

mutual

/-- Whether two values are equal as keys. -/
def same : YamlValue → YamlValue → Bool
  | .null, .null => true
  | .bool a, .bool b => a == b
  | .number a, .number b => a.same b
  | .string a, .string b => a == b
  | .sequence as, .sequence bs => sameItems as bs
  | .mapping as, .mapping bs => as.length == bs.length && containsAll as bs
  | .tagged t a, .tagged u b => tagName t == tagName u && same a b
  | _, _ => false
termination_by a b => sizeOf a + sizeOf b

/-- Whether two lists of values are equal item by item. -/
def sameItems : List YamlValue → List YamlValue → Bool
  | [], [] => true
  | a :: as, b :: bs => same a b && sameItems as bs
  | _, _ => false
termination_by as bs => sizeOf as + sizeOf bs

/-- Whether every pair of the first mapping is in the second. -/
def containsAll : List (YamlValue × YamlValue) → List (YamlValue × YamlValue) → Bool
  | [], _ => true
  | (k, v) :: rest, other => holdsPair k v other && containsAll rest other
termination_by as bs => sizeOf as + sizeOf bs

/-- Whether the first pair of a mapping whose key is the key has an equal value. -/
def holdsPair (key value : YamlValue) : List (YamlValue × YamlValue) → Bool
  | [] => false
  | (k, v) :: rest => if same k key then same value v else holdsPair key value rest
termination_by entries => sizeOf key + sizeOf value + sizeOf entries

end

/-- The value of a key in a mapping's pairs: that of the first pair whose key is equal. -/
def lookupIn : List (YamlValue × YamlValue) → YamlValue → Option YamlValue
  | [], _ => none
  | (k, v) :: rest, key => if same k key then some v else lookupIn rest key

/-- The value of a string key in a mapping. -/
def get? (v : YamlValue) (key : String) : Option YamlValue :=
  match v with
  | .mapping entries => lookupIn entries (.string key)
  | _ => none

end YamlValue

end Yaml

end FeatureFlags
