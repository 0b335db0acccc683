import FeatureFlags.Cache.Record

/-!
# The stored form of a cache entry

An entry is stored as bytes, all integers big-endian:

```
"FSMC" | version 1 (one byte) | record count (u32) | records
record = key (str) | url (str) | status (u16)
       | header count (u32) | (name str, value str)*
       | request, response and expiry times (i64 milliseconds since the epoch)
       | vary count (u32) | (name str, value str)*
       | body length (u32) | body
str    = length (u32) | UTF-8 bytes
```

Reading fails on the first field that does not fit: too few bytes left, a key that is not
32 lowercase hexadecimal digits, a text that is not UTF-8, a time outside the calendar
range, or bytes left over. Repeated vary names keep the last value. Times are stored in
whole milliseconds, so only an entry whose times are whole milliseconds reads back equal.
Writing fails on the first length or count, in the order of the layout, that does not fit
in 32 bits.

A `CacheError` is what can go wrong with the response cache: a file system error (with the
system's text), stored data that cannot be decoded, a record too large to encode, or a lock
left broken.
-/

namespace FeatureFlags

/-- An error of the response cache. -/
inductive CacheError where
  | io (message : String)
  | corrupt (message : String)
  | tooLarge (message : String)
  | lock (message : String)
  deriving Repr, DecidableEq

namespace CacheError

/-- The kind of an error, as answers name it. -/
def kind : CacheError → String
  | .io _ => "Io"
  | .corrupt _ => "Corrupt"
  | .tooLarge _ => "TooLarge"
  | .lock _ => "Lock"

/-- The text of an error. -/
def message : CacheError → String
  | .io m => "Cache io error: " ++ m
  | .corrupt m => "Corrupt cache data: " ++ m
  | .tooLarge m => "Cache record too large to encode: " ++ m
  | .lock m => "Cache lock poisoned: " ++ m

end CacheError

namespace Codec

/-- The big-endian bytes of a number, `width` of them. -/
def bigEndian (n : Nat) : Nat → List UInt8
  | 0 => []
  | width + 1 => bigEndian (n / 256) width ++ [(n % 256).toUInt8]

/-- A 32-bit length. -/
def putU32 (n : Nat) : List UInt8 := bigEndian n 4

/-- A signed 64-bit number in two's complement. -/
def putI64 (n : Int) : List UInt8 := bigEndian (n % (Nat.pow 2 64)).toNat 8

/-- A length or a count: 32 bits, or the error of a value that does not fit. -/
def putLen (n : Nat) : Except CacheError (List UInt8) :=
  if n < Nat.pow 2 32 then .ok (putU32 n) else .error (.tooLarge s!"length {n}")

/-- A text: its length and UTF-8 bytes. -/
def putStr (s : String) : Except CacheError (List UInt8) := do
  let bytes := Utf8.encode s
  pure ((← putLen bytes.length) ++ bytes)

/-- Each name and value of some pairs. -/
def putPairItems : List (String × String) → Except CacheError (List UInt8)
  | [] => pure []
  | (k, v) :: rest => do
    let name ← putStr k
    let value ← putStr v
    pure (name ++ value ++ (← putPairItems rest))

/-- Name-value pairs: their count, then each name and value. -/
def putPairs (pairs : List (String × String)) : Except CacheError (List UInt8) := do
  let count ← putLen pairs.length
  pure (count ++ (← putPairItems pairs))

/-- The stored form of a record; the first length that does not fit, in the order of the
    layout, is the error. -/
def putRecord (r : CacheRecord) : Except CacheError (List UInt8) := do
  let key ← putStr r.key.text
  let url ← putStr r.url
  let headers ← putPairs r.headers
  let vary ← putPairs r.vary.pairs
  let bodyLen ← putLen r.body.length
  pure (key ++ url ++ bigEndian r.status 2 ++ headers ++
    putI64 r.requestTime.millis ++ putI64 r.responseTime.millis ++ putI64 r.expiresAt.millis ++
    vary ++ bodyLen ++ r.body)

/-- The stored forms of records, one after the other. -/
def putRecords : List CacheRecord → Except CacheError (List UInt8)
  | [] => pure []
  | r :: rest => do
    let record ← putRecord r
    pure (record ++ (← putRecords rest))

/-- The magic bytes `FSMC`. -/
def magic : List UInt8 := [70, 83, 77, 67]

/-- The stored form of an entry, or the error of a length or count past 32 bits. -/
def encode (e : CacheEntry) : Except CacheError (List UInt8) := do
  let count ← putLen e.records.length
  pure (magic ++ [1] ++ count ++ (← putRecords e.records))

/-- The bytes left to read, and how many. -/
structure Input where
  rest : List UInt8
  left : Nat

/-- A reader of stored bytes. -/
abbrev Decoder := StateT Input (Except CacheError)

/-- Reads `n` bytes. -/
def take (n : Nat) : Decoder (List UInt8) := do
  let s ← get
  if s.left < n then throw (.corrupt s!"needed {n} bytes, {s.left} left")
  set (Input.mk (s.rest.drop n) (s.left - n))
  pure (s.rest.take n)

/-- The value of big-endian bytes. -/
def ofBigEndian (bytes : List UInt8) : Nat :=
  bytes.foldl (fun acc b => acc * 256 + b.toNat) 0

/-- Reads an unsigned number of `width` bytes. -/
def getUnsigned (width : Nat) : Decoder Nat := do
  pure (ofBigEndian (← take width))

/-- Reads a signed 64-bit number. -/
def getI64 : Decoder Int := do
  let n ← getUnsigned 8
  pure (if n < (Nat.pow 2 63) then (n : Int) else (n : Int) - (Nat.pow 2 64))

/-- Reads a time. -/
def getTime : Decoder Instant := do
  let ms ← getI64
  match Instant.ofMillis? ms with
  | some t => pure t
  | none => throw (.corrupt s!"timestamp {ms} out of range")

/-- Reads a text. -/
def getStr : Decoder String := do
  let len ← getUnsigned 4
  let raw ← take len
  match Utf8.validate raw with
  | .ok s => pure s
  | .error e => throw (.corrupt e.message)

/-- Reads `n` pairs after those in `acc` (reversed). -/
def getPairsFrom : Nat → List (String × String) → Decoder (List (String × String))
  | 0, acc => pure acc.reverse
  | n + 1, acc => do
    let name ← getStr
    let value ← getStr
    getPairsFrom n ((name, value) :: acc)

/-- Reads counted pairs. -/
def getPairs : Decoder (List (String × String)) := do
  getPairsFrom (← getUnsigned 4) []

/-- Reads a record. -/
def getRecord : Decoder CacheRecord := do
  let keyText ← getStr
  let key ← match CacheKey.ofHex? keyText with
    | some k => pure k
    | none => throw (.corrupt s!"invalid key {keyText}")
  let url ← getStr
  let status ← getUnsigned 2
  let headers ← getPairs
  let requestTime ← getTime
  let responseTime ← getTime
  let expiresAt ← getTime
  let vary := VaryKeys.ofList (← getPairs)
  let bodyLen ← getUnsigned 4
  let body ← take bodyLen
  pure { key, url, status, headers, body, requestTime, responseTime, expiresAt, vary }

/-- Reads `n` records after those in `acc` (reversed). -/
def getRecordsFrom : Nat → List CacheRecord → Decoder (List CacheRecord)
  | 0, acc => pure acc.reverse
  | n + 1, acc => do getRecordsFrom n ((← getRecord) :: acc)

/-- Reads an entry from its stored form. -/
def decode (bytes : List UInt8) : Except CacheError CacheEntry :=
  let reader : Decoder CacheEntry := do
    if (← take 4) ≠ magic then throw (.corrupt "bad magic")
    let version ← getUnsigned 1
    if version ≠ 1 then throw (.corrupt s!"unknown version {version}")
    let records ← getRecordsFrom (← getUnsigned 4) []
    let s ← get
    if s.left > 0 then throw (.corrupt s!"{s.left} trailing bytes")
    pure ⟨records⟩
  (reader.run ⟨bytes, bytes.length⟩).map (·.1)

end Codec

end FeatureFlags
