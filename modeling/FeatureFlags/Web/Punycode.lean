import FeatureFlags.Text.Utf8

/-!
# Punycode

The bootstring encoding with the parameters of internationalized domain
names: base 36, thresholds between 1 and 26, skew 38, damping 700, initial bias 72 and
initial code point 128. The ASCII characters of a label are written first, then a `-`
when there were any, then the other code points in increasing order, each as the variable
length base-36 difference from the previous insertion.

* `Punycode.encode`: the encoding of a label;
* `Punycode.decode?`: the label of an encoding, or `none` when it is malformed.
-/

namespace FeatureFlags

namespace Punycode

/-- The character of a base-36 digit: `a`-`z` then `0`-`9`. -/
def digitChar (d : Nat) : Char :=
  if d < 26 then Char.ofNat (97 + d) else Char.ofNat (22 + d)

/-- The value of a base-36 digit of either case. -/
def digitValue? (c : Char) : Option Nat :=
  let n := c.toNat
  if 97 ≤ n && n ≤ 122 then some (n - 97)
  else if 65 ≤ n && n ≤ 90 then some (n - 65)
  else if 48 ≤ n && n ≤ 57 then some (n - 22)
  else none

/-- The threshold of the digit at position `k`. -/
def threshold (k bias : Nat) : Nat :=
  if k ≤ bias then 1 else if bias + 26 ≤ k then 26 else k - bias

/-- Scales `delta` down below 456, counting the steps in `k`. -/
def adaptLoop (delta k : Nat) : Nat × Nat :=
  if 455 < delta then adaptLoop (delta / 35) (k + 36) else (delta, k)
termination_by delta
decreasing_by omega

/-- Every threshold is at least one. -/
theorem threshold_pos (k bias : Nat) : 1 ≤ threshold k bias := by
  unfold threshold
  split
  · omega
  · split <;> omega

/-- The bias after a code point. -/
def adapt (delta numPoints : Nat) (firstTime : Bool) : Nat :=
  let d := if firstTime then delta / 700 else delta / 2
  let d := d + d / numPoints
  let (d, k) := adaptLoop d 0
  k + 36 * d / (d + 38)

/-- The digits of a difference `q`, from position `k`. -/
def encodeDigits (bias k q : Nat) : List Char :=
  let t := threshold k bias
  if h : q < t then [digitChar q]
  else
    digitChar (t + (q - t) % (36 - t)) :: encodeDigits bias (k + 36) ((q - t) / (36 - t))
termination_by q
decreasing_by
  have hpos := threshold_pos k bias
  have hdiv : (q - threshold k bias) / (36 - threshold k bias) ≤ q - threshold k bias :=
    Nat.div_le_self _ _
  omega

/-- The state of encoding: the output so far, the difference, the bias and the number
    of code points handled. -/
structure Encoder where
  out : List Char
  delta : Nat
  bias : Nat
  handled : Nat

/-- Passes over one input code point while inserting code point `m`. -/
def visit (basic m : Nat) (e : Encoder) (c : Char) : Encoder :=
  if c.toNat < m then { e with delta := e.delta + 1 }
  else if c.toNat = m then
    { out := e.out ++ encodeDigits e.bias 36 e.delta, delta := 0,
      bias := adapt e.delta (e.handled + 1) (e.handled = basic), handled := e.handled + 1 }
  else e

/-- Inserts the code points of `points` (increasing), `n` being the previous one. -/
def encodeLoop (input : List Char) (basic : Nat) : List Nat → Nat → Encoder → Encoder
  | [], _, e => e
  | m :: rest, n, e =>
    let e := { e with delta := e.delta + (m - n) * (e.handled + 1) }
    let e := input.foldl (visit basic m) e
    encodeLoop input basic rest (m + 1) { e with delta := e.delta + 1 }

/-- Inserts a number into an increasing list without repeats. -/
def insertSorted (x : Nat) : List Nat → List Nat
  | [] => [x]
  | y :: ys => if x < y then x :: y :: ys else if x = y then y :: ys else y :: insertSorted x ys

/-- The Punycode encoding of a label. -/
def encode (label : String) : String :=
  let input := label.toList
  let basicChars := input.filter (·.toNat < 128)
  let basic := basicChars.length
  let points := (input.filter (·.toNat ≥ 128)).foldl (fun acc c => insertSorted c.toNat acc) []
  let start := if basic > 0 then basicChars ++ ['-'] else []
  let e := encodeLoop input basic points 128 ⟨start, 0, 72, basic⟩
  String.ofList e.out

/-- Reads the digits of one insertion: the new position and the rest of the input;
    `fuel` bounds the digits. -/
def decodeDigits : Nat → List Char → Nat → Nat → Nat → Nat → Option (Nat × List Char)
  | 0, _, _, _, _, _ => none
  | _ + 1, [], _, _, _, _ => none
  | fuel + 1, c :: rest, bias, k, i, w => do
    let d ← digitValue? c
    let i := i + d * w
    let t := threshold k bias
    if d < t then some (i, rest)
    else decodeDigits fuel rest bias (k + 36) i (w * (36 - t))

/-- Inserts code points read from `input` into `out`; `fuel` bounds the insertions. -/
def decodeLoop : Nat → List Char → List Char → Nat → Nat → Nat → Option (List Char)
  | 0, _, out, _, _, _ => some out
  | _ + 1, [], out, _, _, _ => some out
  | fuel + 1, input, out, n, i, bias => do
    let (i', rest) ← decodeDigits (input.length + 1) input bias 36 i 1
    let len := out.length + 1
    let bias := adapt (i' - i) len (i = 0)
    let n := n + i' / len
    let pos := i' % len
    if n > 0x10FFFF || (0xD800 ≤ n && n ≤ 0xDFFF) || n < 128 then none
    else
      decodeLoop fuel rest (out.take pos ++ [Char.ofNat n] ++ out.drop pos) n (pos + 1) bias

/-- The label of a Punycode encoding, or `none` when it is malformed. -/
def decode? (s : String) : Option String :=
  let cs := s.toList
  -- the code points before the last `-` are copied, unless there are none: a leading `-`
  -- belongs to the digits
  let rev := cs.reverse
  let before := ((rev.dropWhile (· ≠ '-')).drop 1).reverse
  let (basic, rest) :=
    if before.isEmpty then ([], cs) else (before, (rev.takeWhile (· ≠ '-')).reverse)
  if basic.any (·.toNat ≥ 128) then none
  else (decodeLoop (rest.length + 1) rest basic 128 0 72).map String.ofList

end Punycode

end FeatureFlags
