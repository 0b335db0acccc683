import FeatureFlags.Text.Hex
import FeatureFlags.Text.Utf8

/-!
# Percent encoding and form encoding

A URL writes a byte outside a component's allowed set as `%` and two uppercase
hexadecimal digits. Each component has its set of bytes to encode (`EncodeSet`): all of
them encode the C0 controls, DEL and every non-ASCII byte, and add their own delimiters.

Form encoding (`application/x-www-form-urlencoded`) writes name-value pairs as
`name=value` joined by `&`: letters, digits and `*-._` stand as themselves, a space is
`+`, and every other byte is percent-encoded. Reading splits at `&` (dropping empty
pieces) and at the first `=`, reads `+` as a space, then decodes percent escapes (a `%`
without two hexadecimal digits stays as it is) and the bytes as UTF-8, each ill-formed
sequence read as U+FFFD.
-/

namespace FeatureFlags

/-- Which bytes a URL component percent-encodes. -/
abbrev EncodeSet := UInt8 → Bool

namespace EncodeSet

/-- Whether a byte is one of the characters of a text. -/
def oneOf (chars : String) (b : UInt8) : Bool :=
  chars.toList.any fun c => c.toNat = b.toNat

/-- C0 controls, DEL and non-ASCII bytes. -/
def controls : EncodeSet := fun b => b < 0x20 || b ≥ 0x7F

/-- The bytes encoded in a fragment. -/
def fragment : EncodeSet := fun b => controls b || oneOf " \"<>`" b

/-- The bytes encoded in a query of a URL of a non-special scheme. -/
def query : EncodeSet := fun b => controls b || oneOf " \"#<>" b

/-- The bytes encoded in a query of a URL of a special scheme: also the apostrophe. -/
def specialQuery : EncodeSet := fun b => query b || b = 39

/-- The bytes encoded in a path segment. -/
def path : EncodeSet := fun b => fragment b || oneOf "#?\x7b\x7d" b

/-- The bytes encoded in a user name or password. -/
def userinfo : EncodeSet := fun b => path b || oneOf "/:;=@[\\]^|" b

end EncodeSet

namespace Percent

/-- The uppercase hexadecimal digit of a value below sixteen. -/
def upperDigit (n : Nat) : Char :=
  if n < 10 then Char.ofNat (48 + n) else Char.ofNat (55 + n)

/-- The escape of a byte. -/
def escape (b : UInt8) : List Char :=
  ['%', upperDigit (b.toNat / 16), upperDigit (b.toNat % 16)]

/-- The encoding of one character. -/
def encodeChar (set : EncodeSet) (c : Char) : List Char :=
  if c.toNat < 0x80 && !set c.toNat.toUInt8 then [c]
  else (Utf8.encodeChar c).flatMap fun b => if set b then escape b else [Char.ofNat b.toNat]

/-- Percent-encodes a text with a set. -/
def encode (set : EncodeSet) (s : String) : String :=
  String.ofList (s.toList.flatMap (encodeChar set))

/-- Decodes percent escapes in bytes (accumulated in reverse). -/
def decodeFrom : List UInt8 → List UInt8 → List UInt8
  | b :: h :: l :: after, acc =>
    let escaped :=
      if b = 37 then
        match Hex.value? (Char.ofNat h.toNat), Hex.value? (Char.ofNat l.toNat) with
        | some hv, some lv => some (hv * 16 + lv).toUInt8
        | _, _ => none
      else none
    match escaped with
    | some v => decodeFrom after (v :: acc)
    | none => decodeFrom (h :: l :: after) (b :: acc)
  | b :: rest, acc => decodeFrom rest (b :: acc)
  | [], acc => acc.reverse
termination_by bytes => bytes.length

/-- Decodes percent escapes. -/
def decode (bytes : List UInt8) : List UInt8 := decodeFrom bytes []

end Percent

namespace Form

/-- Whether a byte stands as itself in form encoding. -/
def unchanged (b : UInt8) : Bool :=
  (48 ≤ b && b ≤ 57) || (65 ≤ b && b ≤ 90) || (97 ≤ b && b ≤ 122) ||
    b = 42 || b = 45 || b = 46 || b = 95

/-- The form encoding of a text. -/
def encode (s : String) : String :=
  String.ofList <| (Utf8.encode s).flatMap fun b =>
    if unchanged b then [Char.ofNat b.toNat]
    else if b = 32 then ['+']
    else Percent.escape b

/-- The form encoding of name-value pairs. -/
def serialize (pairs : List (String × String)) : String :=
  "&".intercalate (pairs.map fun (k, v) => encode k ++ "=" ++ encode v)

/-- Reads one form-encoded component. -/
def decodeComponent (bytes : List UInt8) : String :=
  Utf8.decodeLossy (Percent.decode (bytes.map fun b => if b = 43 then 32 else b))

/-- The name-value pairs of a form-encoded text. -/
def parse (s : String) : List (String × String) :=
  let pieces := ((Utf8.encode s).splitOn 38).filter (!·.isEmpty)
  pieces.map fun piece =>
    let name := piece.takeWhile (· ≠ 61)
    let value := (piece.dropWhile (· ≠ 61)).drop 1
    (decodeComponent name, decodeComponent value)

end Form

end FeatureFlags
