import FeatureFlags.Text.Hex

/-!
# Tables of character properties

A property of characters that is constant on runs of consecutive code points is a
`CodeTable`: the first code point of each run with the value on it, in increasing order,
and the value below the first run. The value at a code point is that of the last run
starting at or before it, found by halving the runs.

A table is written as a text: the runs in order, separated by commas, each the distance in
hexadecimal from the first code point of the run before (from zero for the first run), a
colon, and the text of its value.

* `CodeTable.read`: the table of a text, given how to read a value;
* `CodeTable.get`: the value at a code point;
* `CodeTable.entry?`: the value of the run that starts at a code point, for a table whose
  runs are single entries.

The Unicode `White_Space` property holds of a handful of code points, tested directly
(`Char.isUnicodeSpace`); `String.trimSpace` trims it from both ends of a text.
-/

namespace FeatureFlags

/-- A property of code points, constant on runs. -/
structure CodeTable (α : Type) where
  /-- The first code point of each run, increasing. -/
  starts : Array Nat
  /-- The value on each run. -/
  values : Array α
  /-- The value below the first run. -/
  below : α

namespace CodeTable

variable {α : Type}

/-- The runs of the items of a table text, the run before them starting at `start`; an
    item without a colon is skipped. -/
def readRuns (value : String → α) : Nat → List String → List (Nat × α)
  | _, [] => []
  | start, item :: rest =>
    match item.splitOn ":" with
    | [distance, text] =>
      let first := start + Hex.number distance.toList
      (first, value text) :: readRuns value first rest
    | _ => readRuns value start rest

/-- The table written by a text, with `below` as the value before its first run. -/
def read (below : α) (value : String → α) (text : String) : CodeTable α :=
  let runs := readRuns value 0 (text.splitOn ",")
  { starts := (runs.map (·.1)).toArray, values := (runs.map (·.2)).toArray, below }

/-- The number of runs that start at or before `cp`, knowing that the first `lo` runs do
    and that the runs from `hi` on do not. -/
def countUpTo (starts : Array Nat) (cp lo hi : Nat) : Nat :=
  if lo < hi then
    let mid := (lo + hi) / 2
    if starts[mid]?.any (· ≤ cp) then countUpTo starts cp (mid + 1) hi
    else countUpTo starts cp lo mid
  else lo
termination_by hi - lo

/-- The value of the property at a code point. -/
def get (t : CodeTable α) (cp : Nat) : α :=
  match countUpTo t.starts cp 0 t.starts.size with
  | 0 => t.below
  | n + 1 => t.values[n]?.getD t.below

/-- The value of the run that starts exactly at `cp`, if one does. -/
def entry? (t : CodeTable α) (cp : Nat) : Option α :=
  match countUpTo t.starts cp 0 t.starts.size with
  | 0 => none
  | n + 1 => if t.starts[n]? = some cp then t.values[n]? else none

end CodeTable

/-! ### White space -/

/-- Whether a character has the Unicode `White_Space` property. -/
def Char.isUnicodeSpace (c : Char) : Bool :=
  let n := c.toNat
  (0x09 ≤ n && n ≤ 0x0D) || n == 0x20 || n == 0x85 || n == 0xA0 || n == 0x1680 ||
    (0x2000 ≤ n && n ≤ 0x200A) || n == 0x2028 || n == 0x2029 || n == 0x202F || n == 0x205F ||
    n == 0x3000

/-- A text without white space at either end. -/
def String.trimSpace (s : String) : String :=
  String.ofList ((s.toList.dropWhile Char.isUnicodeSpace).reverse.dropWhile Char.isUnicodeSpace).reverse

example : Char.isUnicodeSpace ' ' ∧ Char.isUnicodeSpace '\t' ∧ ¬ Char.isUnicodeSpace 'a' := by decide

end FeatureFlags
