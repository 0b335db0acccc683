/-!
# Hexadecimal text of bytes

Each byte is two lowercase hexadecimal digits, most significant first.

* `Hex.encode`: the text of some bytes;
* `Hex.decode?`: the bytes of a text of an even number of digits (either case);
* `Hex.number`: the number written by some digits.
-/

namespace FeatureFlags

namespace Hex

/-- The lowercase digit of a value below sixteen. -/
def digit (n : Nat) : Char :=
  if n < 10 then Char.ofNat (48 + n) else Char.ofNat (87 + n)

/-- The value of a hexadecimal digit of either case. -/
def value? (c : Char) : Option Nat :=
  if '0' ≤ c ∧ c ≤ '9' then some (c.toNat - 48)
  else if 'a' ≤ c ∧ c ≤ 'f' then some (c.toNat - 87)
  else if 'A' ≤ c ∧ c ≤ 'F' then some (c.toNat - 55)
  else none

/-- The number written by hexadecimal digits, most significant first (a character that is
    no digit counts as zero). -/
def number (digits : List Char) : Nat :=
  digits.foldl (fun n c => n * 16 + (value? c).getD 0) 0

/-- Whether a character is a lowercase hexadecimal digit. -/
def isLowerDigit (c : Char) : Bool :=
  ('0' ≤ c && c ≤ '9') || ('a' ≤ c && c ≤ 'f')

/-- The two digits of a byte. -/
def byteDigits (b : UInt8) : List Char :=
  [digit (b.toNat / 16), digit (b.toNat % 16)]

/-- The lowercase hexadecimal text of some bytes. -/
def encode (bytes : List UInt8) : String :=
  String.ofList (bytes.flatMap byteDigits)

/-- Bytes from pairs of digits, after the bytes `acc` read so far (reversed). -/
def decodeChars : List Char → List UInt8 → Option (List UInt8)
  | [], acc => some acc.reverse
  | [_], _ => none
  | hi :: lo :: rest, acc =>
    match value? hi, value? lo with
    | some h, some l => decodeChars rest ((h * 16 + l).toUInt8 :: acc)
    | _, _ => none

/-- The bytes written by a hexadecimal text. -/
def decode? (s : String) : Option (List UInt8) :=
  decodeChars s.toList []

end Hex

end FeatureFlags
