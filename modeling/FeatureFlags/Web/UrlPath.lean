import FeatureFlags.Web.Percent

/-!
# Paths of URLs

A path is read onto its written text: each segment is percent-encoded and ends at a slash
(a backslash too for special schemes), at `?`, at `#` or at the end. Dot segments (`.`,
`..`, with the dots possibly escaped as `%2e`) are resolved as they come:

* `.` is dropped, leaving a trailing slash when it is the last segment;
* `..` drops itself and the segment before it, unless that one is a Windows drive letter
  (a letter and `:` or `|`): a slash after a drive letter stays, and a `file` path never
  loses a drive letter written with `:`;
* in a `file` URL the first segment, when it is a drive letter, is written with `:`, the
  URL loses its host, and a drive letter followed by more characters of its segment gets a
  slash after it;
* a `file` path keeps a single leading slash however many it was written with.

* `UrlPath.read`: reads path segments onto a path text;
* `UrlPath.ofText`, `UrlPath.text`: the path of a text and the text of a path.
-/

namespace FeatureFlags

/-- The path of a URL: segments, or an opaque text for a URL that cannot be a base. -/
inductive UrlPath where
  | segments (items : List String)
  | plain (text : String)
  deriving Repr, DecidableEq, Inhabited

namespace UrlPath

/-- The text of a path: each segment after a slash. -/
def text : UrlPath → String
  | .plain t => t
  | .segments items => String.join (items.map ("/" ++ ·))

/-- The path of a text that is empty or starts with a slash. -/
def ofText (t : List Char) : UrlPath :=
  match t with
  | [] => .segments []
  | _ :: rest => .segments ((String.ofList rest).splitOn "/")

/-! ## Drive letters and dot segments -/

/-- Whether two characters begin a Windows drive letter: an ASCII letter, then `:` or `|`. -/
def isDriveStart (a b : Char) : Bool := a.isAlpha && (b == ':' || b == '|')

/-- Whether a segment is a Windows drive letter. -/
def isDriveLetter : List Char → Bool
  | [a, b] => isDriveStart a b
  | _ => false

/-- Whether a segment is a drive letter written with `:`. -/
def isNormalizedDriveLetter : List Char → Bool
  | [a, ':'] => a.isAlpha
  | _ => false

/-- Whether a text begins with a drive letter that ends there or before `/`, `\`, `?` or
    `#`. -/
def startsWithDriveLetter : List Char → Bool
  | a :: b :: rest =>
    isDriveStart a b &&
      (match rest with
       | [] => true
       | c :: _ => c == '/' || c == '\\' || c == '?' || c == '#')
  | _ => false

/-- Whether a text is a delimiter followed by a drive letter. -/
def delimitsDriveLetter : List Char → Bool
  | c :: rest => (c == '/' || c == '\\' || c == '?' || c == '#') && startsWithDriveLetter rest
  | [] => false

/-- ASCII lowercase. -/
def lowerAscii (cs : List Char) : List Char :=
  cs.map fun c => if 'A' ≤ c && c ≤ 'Z' then Char.ofNat (c.toNat + 32) else c

/-- Whether a written segment is `.`. -/
def isSingleDot (segment : List Char) : Bool :=
  let s := lowerAscii segment
  s == ['.'] || s == ['%', '2', 'e']

/-- Whether a written segment is `..`. -/
def isDoubleDot (segment : List Char) : Bool :=
  let s := lowerAscii segment
  s == ['.', '.'] || s == ['.', '%', '2', 'e'] || s == ['%', '2', 'e', '.'] ||
    s == ['%', '2', 'e', '%', '2', 'e']

/-! ## Reading -/

/-- The position of the last slash of a text. -/
def lastSlash (t : List Char) : Option Nat :=
  (t.zipIdx.filter (·.1 == '/')).getLast?.map (·.2)

/-- Whether the slash that ends a text may be dropped: it is not the first slash, and the
    segment before it is not a drive letter. -/
def lastSlashRemovable (t : List Char) : Bool :=
  match lastSlash t.dropLast with
  | some i => !delimitsDriveLetter (t.drop i)
  | none => false

/-- Drops the last segment of a path text, keeping the slash before it, unless it is a
    drive letter written with `:` in a `file` path. -/
def popSegment (file : Bool) (t : List Char) : List Char :=
  match lastSlash t with
  | some i =>
    if file && isNormalizedDriveLetter (t.drop (i + 1)) then t else t.take (i + 1)
  | none => t

/-- Reads the characters of one segment onto the text, from the segment's start: the text,
    the segment's start (moved when a drive letter gets its slash), whether a slash ended
    the segment, and the rest of the input. -/
def readSegment (special file : Bool) (start : Nat) (t : List Char) :
    List Char → List Char × Nat × Bool × List Char
  | [] => (t, start, false, [])
  | c :: rest =>
    if c == '/' || (special && c == '\\') then (t ++ ['/'], start, true, rest)
    else if c == '?' || c == '#' then (t, start, false, c :: rest)
    else
      -- a drive letter that more characters follow is closed by a slash
      let (t, start) :=
        if file && isNormalizedDriveLetter (t.drop 1) then (t ++ ['/'], start + 1) else (t, start)
      readSegment special file start (t ++ (Percent.encode EncodeSet.path (String.singleton c)).toList)
        rest

/-- Resolves a segment just read: a dot segment, or a drive letter of a `file` path at its
    start. The result is the text and whether the URL keeps its host. -/
def settleSegment (file : Bool) (start : Nat) (t : List Char) (slash hasHost : Bool) :
    List Char × Bool :=
  let segment := if slash then (t.drop start).dropLast else t.drop start
  if isDoubleDot segment then
    let t := t.take start
    let t := if t.getLast? == some '/' && lastSlashRemovable t then t.dropLast else t
    let t := popSegment file t
    (if slash && t.getLast? != some '/' then t ++ ['/'] else t, hasHost)
  else if isSingleDot segment then
    let t := t.take start
    (if t.getLast? == some '/' then t else t ++ ['/'], hasHost)
  else if file && start == 1 && isDriveLetter segment then
    (t.take start ++ segment.take 1 ++ [':'] ++ (if slash then ['/'] else []), false)
  else (t, hasHost)

/-- Reads segments onto a path text while slashes end them; `fuel` bounds the segments. -/
def readSegments (special file : Bool) :
    Nat → List Char → Bool → List Char → List Char × Bool × List Char
  | 0, t, hasHost, input => (t, hasHost, input)
  | fuel + 1, t, hasHost, input =>
    let (t, start, slash, rest) := readSegment special file t.length t input
    let (t, hasHost) := settleSegment file start t slash hasHost
    if slash then readSegments special file fuel t hasHost rest else (t, hasHost, rest)

/-- Reads a path onto a path text, up to `?`, `#` or the end: the text, whether the URL
    keeps its host, and the rest of the input. -/
def read (special file : Bool) (t : List Char) (hasHost : Bool) (input : List Char) :
    List Char × Bool × List Char :=
  let (t, hasHost, rest) := readSegments special file (input.length + 1) t hasHost input
  ((if file then '/' :: t.dropWhile (· == '/') else t), hasHost, rest)

end UrlPath

end FeatureFlags
