/-!
# UTF-8

Bytes as text. A string is written as its UTF-8 bytes; bytes are read back either
strictly, reporting the first ill-formed sequence, or lossily, replacing each ill-formed
sequence by U+FFFD.

Reading is one step at a time (`Utf8.step`): the front of a byte list is a scalar value, a
*maximal ill-formed subsequence* of one to three bytes (the longest prefix that could have
begun a well-formed sequence, or a single byte if none could), or the beginning of a
sequence cut short by the end of the bytes.

* `Utf8.encode`: the bytes of a string;
* `Utf8.validate`: the text of the bytes, or the first `Utf8Error`, whose message names
  how many bytes are ill-formed and where they start;
* `Utf8.decodeLossy`: the text of the bytes with U+FFFD for each ill-formed sequence and
  one U+FFFD for a sequence cut short at the end.
-/

namespace FeatureFlags

namespace Utf8

/-- The bytes of one character. -/
def encodeChar (c : Char) : List UInt8 :=
  let n := c.toNat
  if n < 0x80 then [n.toUInt8]
  else if n < 0x800 then [(0xC0 + n / 0x40).toUInt8, (0x80 + n % 0x40).toUInt8]
  else if n < 0x10000 then
    [(0xE0 + n / 0x1000).toUInt8, (0x80 + n / 0x40 % 0x40).toUInt8,
      (0x80 + n % 0x40).toUInt8]
  else
    [(0xF0 + n / 0x40000).toUInt8, (0x80 + n / 0x1000 % 0x40).toUInt8,
      (0x80 + n / 0x40 % 0x40).toUInt8, (0x80 + n % 0x40).toUInt8]

/-- The UTF-8 bytes of a string. -/
def encode (s : String) : List UInt8 :=
  s.toList.flatMap encodeChar

/-- Number of UTF-8 bytes of a string. -/
def byteLength (s : String) : Nat :=
  (encode s).length

/-- A byte `10xxxxxx` continues a multi-byte sequence. -/
def isContinuation (b : UInt8) : Bool :=
  0x80 ≤ b && b ≤ 0xBF

/-- The second byte of a three-byte sequence: the ranges exclude overlong forms (after
    `E0`) and surrogates (after `ED`). -/
def secondOfThree (lead b : UInt8) : Bool :=
  if lead = 0xE0 then 0xA0 ≤ b && b ≤ 0xBF
  else if lead = 0xED then 0x80 ≤ b && b ≤ 0x9F
  else isContinuation b

/-- The second byte of a four-byte sequence: the ranges exclude overlong forms (after
    `F0`) and values above U+10FFFF (after `F4`). -/
def secondOfFour (lead b : UInt8) : Bool :=
  if lead = 0xF0 then 0x90 ≤ b && b ≤ 0xBF
  else if lead = 0xF4 then 0x80 ≤ b && b ≤ 0x8F
  else isContinuation b

/-- What the front of a byte list holds. -/
inductive Step where
  /-- A scalar value written in `width` bytes. -/
  | scalar (c : Char) (width : Nat)
  /-- A maximal ill-formed subsequence of `len` bytes. -/
  | illFormed (len : Nat)
  /-- A well-begun sequence that the end of the bytes cuts short. -/
  | truncated
  deriving Repr, DecidableEq

/-- The bits of `b` below `mask`, a power of two: what a byte adds to a scalar value. -/
def payload (b : UInt8) (mask : Nat) : Nat := b.toNat % mask

/-- Reads the front of a nonempty byte list; `none` for no bytes. -/
def step : List UInt8 → Option Step
  | [] => none
  | b :: rest =>
    if b < 0x80 then some (.scalar (Char.ofNat b.toNat) 1)
    else if 0xC2 ≤ b && b ≤ 0xDF then
      match rest with
      | [] => some .truncated
      | c :: _ =>
        if isContinuation c then
          some (.scalar (Char.ofNat (payload b 0x20 * 0x40 + payload c 0x40)) 2)
        else some (.illFormed 1)
    else if 0xE0 ≤ b && b ≤ 0xEF then
      match rest with
      | [] => some .truncated
      | c :: rest =>
        if secondOfThree b c then
          match rest with
          | [] => some .truncated
          | d :: _ =>
            if isContinuation d then
              some (.scalar (Char.ofNat
                (payload b 0x10 * 0x1000 + payload c 0x40 * 0x40 + payload d 0x40)) 3)
            else some (.illFormed 2)
        else some (.illFormed 1)
    else if 0xF0 ≤ b && b ≤ 0xF4 then
      match rest with
      | [] => some .truncated
      | c :: rest =>
        if secondOfFour b c then
          match rest with
          | [] => some .truncated
          | d :: rest =>
            if isContinuation d then
              match rest with
              | [] => some .truncated
              | e :: _ =>
                if isContinuation e then
                  some (.scalar (Char.ofNat (payload b 0x08 * 0x40000 +
                    payload c 0x40 * 0x1000 + payload d 0x40 * 0x40 + payload e 0x40)) 4)
                else some (.illFormed 3)
            else some (.illFormed 2)
        else some (.illFormed 1)
    else some (.illFormed 1)

end Utf8

/-- The first ill-formed sequence of some bytes: the bytes before `validUpTo` are
    well-formed, and `errorLen` is the length of the ill-formed sequence, or `none`
    when the bytes end inside a sequence. -/
structure Utf8Error where
  validUpTo : Nat
  errorLen : Option Nat
  deriving Repr, DecidableEq

/-- The text of a UTF-8 error. -/
def Utf8Error.message : Utf8Error → String
  | ⟨index, some len⟩ => s!"invalid utf-8 sequence of {len} bytes from index {index}"
  | ⟨index, none⟩ => s!"incomplete utf-8 byte sequence from index {index}"

namespace Utf8

/-- Strict reading with an accumulator; `fuel` bounds the number of steps and the
    length of the bytes is enough, as every step takes at least one byte. -/
def validateFrom : Nat → List UInt8 → Nat → String → Except Utf8Error String
  | 0, _, _, acc => .ok acc
  | fuel + 1, bytes, index, acc =>
    match step bytes with
    | none => .ok acc
    | some (.scalar c width) => validateFrom fuel (bytes.drop width) (index + width) (acc.push c)
    | some (.illFormed len) => .error ⟨index, some len⟩
    | some .truncated => .error ⟨index, none⟩

/-- The text of well-formed UTF-8 bytes, or the first ill-formed sequence. -/
def validate (bytes : List UInt8) : Except Utf8Error String :=
  validateFrom bytes.length bytes 0 ""

/-- Lossy reading with an accumulator, bounded by `fuel` as `validateFrom` is. -/
def decodeLossyFrom : Nat → List UInt8 → String → String
  | 0, _, acc => acc
  | fuel + 1, bytes, acc =>
    match step bytes with
    | none => acc
    | some (.scalar c width) => decodeLossyFrom fuel (bytes.drop width) (acc.push c)
    | some (.illFormed len) => decodeLossyFrom fuel (bytes.drop len) (acc.push '�')
    | some .truncated => acc.push '�'

/-- The text of some bytes, with U+FFFD for each ill-formed sequence. -/
def decodeLossy (bytes : List UInt8) : String :=
  decodeLossyFrom bytes.length bytes ""

end Utf8

end FeatureFlags
