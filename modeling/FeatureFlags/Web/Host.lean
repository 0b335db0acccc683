import FeatureFlags.Web.Percent
import FeatureFlags.Web.DomainName

/-!
# Hosts of URLs

The host of a URL is a domain, an IPv4 address, an IPv6 address, or, for schemes without
special meaning, an opaque text.

* A domain is percent-decoded and written in ASCII as an internationalized domain name
  (`DomainName.toAscii`); any failure there is the one error `idna`.
  A domain whose last label is a number is read as an IPv4 address.
* An IPv4 address has one to four parts, each decimal, octal (leading `0`) or
  hexadecimal (leading `0x`); the last part fills the remaining bytes.
* An IPv6 address has eight 16-bit pieces, `::` standing for a run of zero pieces, and
  may end in a dotted IPv4 address. It is written with lowercase digits and the longest
  run of two or more zero pieces (the first of equal runs) written `::`.
* An opaque host may not hold spaces or URL delimiters; it is percent-encoded.
-/

namespace FeatureFlags

/-- Why a URL could not be read. -/
inductive UrlError where
  | emptyHost
  | idna
  | invalidPort
  | invalidIpv4Address
  | invalidIpv6Address
  | invalidDomainCharacter
  | relativeUrlWithoutBase
  | relativeUrlWithCannotBeABaseBase
  deriving Repr, DecidableEq

/-- The text of a URL error. -/
def UrlError.message : UrlError → String
  | .emptyHost => "empty host"
  | .idna => "invalid international domain name"
  | .invalidPort => "invalid port number"
  | .invalidIpv4Address => "invalid IPv4 address"
  | .invalidIpv6Address => "invalid IPv6 address"
  | .invalidDomainCharacter => "invalid domain character"
  | .relativeUrlWithoutBase => "relative URL without a base"
  | .relativeUrlWithCannotBeABaseBase => "relative URL with a cannot-be-a-base base"

/-- The host of a URL. -/
inductive Host where
  /-- A domain, or the text of an opaque host. -/
  | domain (name : String)
  /-- An IPv4 address as a 32-bit number. -/
  | ipv4 (address : Nat)
  /-- An IPv6 address as its eight 16-bit pieces. -/
  | ipv6 (pieces : List Nat)
  deriving Repr, DecidableEq, Inhabited

namespace Host

/-! ## IPv4 -/

/-- A number of an IPv4 part: `none` when the part is not a number, `some none` when it
    passes 32 bits. -/
def ipv4Number? (part : String) : Option (Option Nat) :=
  let cs := part.toList
  if cs.isEmpty then none
  else
    let (radix, digits) :=
      match cs with
      | '0' :: 'x' :: rest => (16, rest)
      | '0' :: 'X' :: rest => (16, rest)
      | '0' :: rest@(_ :: _) => (8, rest)
      | _ => (10, cs)
    if digits.isEmpty then some (some 0)
    else
      let values := digits.map fun c => (Hex.value? c).getD 99
      if values.all (· < radix) then
        let n := values.foldl (fun acc v => acc * radix + v) 0
        some (if n < (Nat.pow 2 32) then some n else none)
      else none

/-- Whether a domain ends in a number, so that it must be an IPv4 address. -/
def endsInNumber (domain : String) : Bool :=
  let parts := (domain.splitOn ".").reverse
  let last := match parts with
    | "" :: next :: _ => some next
    | "" :: [] => none
    | last :: _ => some last
    | [] => none
  match last with
  | none => false
  | some last =>
    (!last.isEmpty && last.toList.all Char.isDigit) || (ipv4Number? last).isSome

/-- Reads an IPv4 address. -/
def parseIpv4 (s : String) : Except UrlError Nat := do
  let parts := s.splitOn "."
  let parts := if parts.getLast? = some "" && parts.length > 1 then parts.dropLast else parts
  if parts.length > 4 then throw .invalidIpv4Address
  let numbers ← parts.mapM fun p =>
    match ipv4Number? p with
    | some (some n) => pure n
    | _ => throw .invalidIpv4Address
  match numbers.reverse with
  | [] => throw .invalidIpv4Address
  | last :: firstRev =>
    let first := firstRev.reverse
    if last ≥ (Nat.pow 256 (4 - first.length)) then throw .invalidIpv4Address
    if first.any (· > 255) then throw .invalidIpv4Address
    pure (first.zipIdx.foldl (fun acc (n, i) => acc + n * (Nat.pow 256 (3 - i))) last)

/-- The dotted text of an IPv4 address. -/
def ipv4Text (a : Nat) : String :=
  ".".intercalate ([a / 16777216, a / 65536, a / 256, a].map fun part => toString (part % 256))

/-! ## IPv6 -/

/-- Up to four hexadecimal digits: their value, how many, and the rest. -/
def hexRun : Nat → List Char → Nat → Nat × Nat × List Char
  | 0, cs, v => (v, 0, cs)
  | n + 1, c :: rest, v =>
    match Hex.value? c with
    | some d =>
      let (v', k, r) := hexRun n rest (v * 16 + d)
      (v', k + 1, r)
    | none => (v, 0, c :: rest)
  | _ + 1, [], v => (v, 0, [])

/-- Reads the dotted IPv4 tail of an IPv6 address: four decimal numbers below 256
    without leading zeros. -/
def ipv4Tail (cs : List Char) : Option (List Nat) := do
  let parts := (String.ofList cs).splitOn "."
  if parts.length ≠ 4 then none
  let nums ← parts.mapM fun p =>
    let ds := p.toList
    if ds.isEmpty || !ds.all Char.isDigit || (ds.length > 1 && ds.head? = some '0') then none
    else
      let n := ds.foldl (fun acc c => acc * 10 + (c.toNat - 48)) 0
      if n > 255 then none else some n
  match nums with
  | [a, b, c, d] => some [a * 256 + b, c * 256 + d]
  | _ => none

/-- Reads the pieces of an IPv6 address after a possible leading `::`: the pieces
    before and after the compression point; `fuel` bounds the pieces. -/
def ipv6Pieces : Nat → List Char → List Nat → Option (List Nat) → Option (List Nat × Option (List Nat))
  | 0, _, _, _ => none
  | _ + 1, [], before, after => some (before, after)
  | fuel + 1, cs, before, after =>
    -- a compression takes one piece at least
    let count := before.length + (after.map (·.length + 1)).getD 0
    if count ≥ 8 then none
    else
      match cs with
      | ':' :: rest =>
        -- a compression
        if after.isSome then none else ipv6Pieces fuel rest before (some [])
      | _ =>
        let (v, k, rest) := hexRun 4 cs 0
        let add (p : List Nat) :=
          match after with
          | some a => (before, some (a ++ p))
          | none => (before ++ p, none)
        match rest with
        | '.' :: _ =>
          if k = 0 || count > 6 then none
          else
            match ipv4Tail cs with
            | some tail => let (b, a) := add tail; some (b, a)
            | none => none
        | ':' :: rest' =>
          if k = 0 || rest'.isEmpty then none
          else let (b, a) := add [v]; ipv6Pieces fuel rest' b a
        | [] => if k = 0 then none else some (add [v])
        | _ => none

/-- Reads an IPv6 address (without brackets). -/
def parseIpv6 (s : String) : Except UrlError (List Nat) :=
  let cs := s.toList
  let start : Option (List Char × Option (List Nat)) :=
    match cs with
    | ':' :: ':' :: rest => some (rest, some [])
    | ':' :: _ => none
    | _ => some (cs, none)
  if cs.length < 2 then .error .invalidIpv6Address
  else
    match start with
    | none => .error .invalidIpv6Address
    | some (rest, after) =>
      match ipv6Pieces (cs.length + 1) rest [] after with
      | some (before, none) =>
        if before.length = 8 then .ok before else .error .invalidIpv6Address
      | some (before, some after) =>
        let n := before.length + after.length
        if n ≥ 8 then .error .invalidIpv6Address
        else .ok (before ++ List.replicate (8 - n) 0 ++ after)
      | none => .error .invalidIpv6Address

/-- The longest run of two or more zero pieces: its start and length (the first of
    equal runs). -/
def longestZeroRun (pieces : List Nat) : Option (Nat × Nat) :=
  let step (acc : Option (Nat × Nat) × Nat × Nat) (p : Nat × Nat) :=
    let (best, runStart, runLen) := acc
    let (v, i) := p
    if v = 0 then
      let runStart := if runLen = 0 then i else runStart
      let runLen := runLen + 1
      let best := match best with
        | some (_, len) => if runLen > len then some (runStart, runLen) else best
        | none => if runLen ≥ 2 then some (runStart, runLen) else none
      (best, runStart, runLen)
    else (best, runStart, 0)
  (pieces.zipIdx.foldl step (none, 0, 0)).1

/-- The lowercase hexadecimal text of a piece. -/
def pieceText (p : Nat) : String :=
  String.ofList (Nat.toDigits 16 p)

/-- The text of an IPv6 address. -/
def ipv6Text (pieces : List Nat) : String :=
  match longestZeroRun pieces with
  | none => ":".intercalate (pieces.map pieceText)
  | some (start, len) =>
    ":".intercalate ((pieces.take start).map pieceText) ++ "::" ++
      ":".intercalate ((pieces.drop (start + len)).map pieceText)

/-! ## Domains -/

/-- Reads the host of a URL of a special scheme. -/
def parse (s : String) : Except UrlError Host :=
  if s.startsWith "[" then
    if !s.endsWith "]" then .error .invalidIpv6Address
    else (parseIpv6 (String.ofList ((s.toList.drop 1).dropLast))).map .ipv6
  else do
    let decoded := Utf8.decodeLossy (Percent.decode (Utf8.encode s))
    let ascii ← (DomainName.toAscii decoded).mapError fun _ => UrlError.idna
    if ascii.isEmpty then throw .emptyHost
    if endsInNumber ascii then pure (.ipv4 (← parseIpv4 ascii))
    else pure (.domain ascii)

/-- Whether a character may not stand in an opaque host. -/
def forbiddenInOpaque (c : Char) : Bool :=
  "\x00\t\n\r #/:<>?@[\\]^|".toList.contains c

/-- Reads the host of a URL of a scheme without special meaning. -/
def parseOpaque (s : String) : Except UrlError Host :=
  if s.startsWith "[" then
    if !s.endsWith "]" then .error .invalidIpv6Address
    else (parseIpv6 (String.ofList ((s.toList.drop 1).dropLast))).map .ipv6
  else if s.toList.any forbiddenInOpaque then .error .invalidDomainCharacter
  else .ok (.domain (Percent.encode EncodeSet.controls s))

/-- The text of a host. -/
def text : Host → String
  | .domain name => name
  | .ipv4 a => ipv4Text a
  | .ipv6 pieces => "[" ++ ipv6Text pieces ++ "]"

end Host

end FeatureFlags
