import FeatureFlags.Web.Host
import FeatureFlags.Web.UrlPath

/-!
# URLs

A URL is a scheme, an optional authority (user name, password, host, port), a path, an
optional query and an optional fragment. `Url.parse` reads a URL, alone or against a base:

* blanks and controls around the text are dropped, and tabs and line breaks inside it;
* the schemes `http`, `https`, `ws`, `wss`, `ftp` and `file` are special: their URLs
  always have a host (empty for `file`), a backslash counts as a slash, and their default
  ports are left out;
* a special URL's authority follows any number of slashes or backslashes; another
  scheme's follows exactly `//`, and without it the path is opaque unless it starts with a
  slash;
* a text without a scheme is read against the base, and fails without one (or with a base
  that cannot be a base, unless the text is only a fragment). Against a base, two or more
  leading slashes or backslashes, whatever the scheme, begin an authority: the text after
  `//` when it starts so, else after all of them;
* a `file` URL takes its host after two slashes, where `localhost` is no host and a drive
  letter is the start of the path; against a `file` base it keeps the base's host, or
  the base's drive letter when it starts with a slash and no drive letter of its own;
* a path is resolved as `UrlPath.read` says;
* each component percent-encodes the bytes of its `EncodeSet`.

`Url.text` writes a URL back. `Url.queryPairs` reads the query as form-encoded pairs and
`Url.appendPairs` adds pairs to it.
-/

namespace FeatureFlags

/-- A URL. -/
structure Url where
  scheme : String
  username : String := ""
  password : String := ""
  host : Option Host := none
  port : Option Nat := none
  path : UrlPath := .segments []
  query : Option String := none
  fragment : Option String := none
  deriving Repr, DecidableEq, Inhabited

namespace Url

/-- Whether a scheme is special. -/
def isSpecialScheme (scheme : String) : Bool :=
  ["http", "https", "ws", "wss", "ftp", "file"].contains scheme

/-- The default port of a scheme. -/
def defaultPort : String → Option Nat
  | "http" => some 80
  | "ws" => some 80
  | "https" => some 443
  | "wss" => some 443
  | "ftp" => some 21
  | _ => none

/-- Whether the URL's scheme is special. -/
def isSpecial (u : Url) : Bool := isSpecialScheme u.scheme

/-- Whether the URL cannot be a base: its path is opaque. -/
def cannotBeABase (u : Url) : Bool :=
  match u.path with
  | .plain _ => true
  | .segments _ => false

/-- The text of a URL. A URL without a host whose path starts with an empty segment writes
    `/.` before it, so that the path is not read back as an authority. -/
def text (u : Url) : String :=
  let authority :=
    match u.host with
    | some h =>
      let userinfo :=
        if u.username.isEmpty && u.password.isEmpty then ""
        else u.username ++ (if u.password.isEmpty then "" else ":" ++ u.password) ++ "@"
      "//" ++ userinfo ++ h.text ++ (match u.port with
        | some p => ":" ++ toString p
        | none => "")
    | none =>
      match u.path with
      | .segments ("" :: _ :: _) => "/."
      | _ => ""
  u.scheme ++ ":" ++ authority ++ u.path.text ++
    (match u.query with
      | some q => "?" ++ q
      | none => "") ++
    (match u.fragment with
      | some f => "#" ++ f
      | none => "")

/-! ## Reading -/

/-- Whether a character is a slash, or for a special scheme a backslash. -/
def isSlash (special : Bool) (c : Char) : Bool := c = '/' || (special && c = '\\')

/-- Lowercase of ASCII letters. -/
def asciiLower (s : String) : String :=
  String.ofList (UrlPath.lowerAscii s.toList)

/-- Reads an optional query and fragment from a text that starts with `?`, `#` or ends. -/
def readQueryAndFragment (special : Bool) (cs : List Char) : Option String × Option String :=
  let fragmentOf (cs : List Char) : Option String :=
    match cs with
    | '#' :: f => some (Percent.encode EncodeSet.fragment (String.ofList f))
    | _ => none
  match cs with
  | '?' :: rest =>
    let q := rest.takeWhile (· ≠ '#')
    let set := if special then EncodeSet.specialQuery else EncodeSet.query
    (some (Percent.encode set (String.ofList q)), fragmentOf (rest.dropWhile (· ≠ '#')))
  | _ => (none, fragmentOf cs)

/-- A URL with its path read from a path text onward, then its query and fragment. When
    `hasHost` is set, the host is dropped if the path says so (a `file` drive letter). -/
def withPath (u : Url) (file : Bool) (start : List Char) (hasHost : Bool) (input : List Char) :
    Url :=
  let (t, keepsHost, rest) := UrlPath.read u.isSpecial file start hasHost input
  let (query, fragment) := readQueryAndFragment u.isSpecial rest
  { u with host := if hasHost && !keepsHost then some (.domain "") else u.host,
           path := UrlPath.ofText t, query, fragment }

/-- The user name and password before the last `@` of the authority, and the rest. An `@`
    alone before the end of the authority leaves no host. -/
def readUserinfo (special : Bool) (cs : List Char) : Except UrlError (String × String × List Char) := do
  let ends (c : Char) := c = '/' || c = '?' || c = '#' || (special && c = '\\')
  let authority := cs.takeWhile (!ends ·)
  match (authority.zipIdx.filter (·.1 = '@')).getLast? with
  | none => pure ("", "", cs)
  | some (_, 0) =>
    let rest := cs.drop 1
    match rest with
    | c :: _ => if ends c then throw .emptyHost else pure ("", "", rest)
    | [] => pure ("", "", rest)
  | some (_, i) =>
    let info := cs.take i
    let name := info.takeWhile (· ≠ ':')
    let pass := (info.dropWhile (· ≠ ':')).drop 1
    pure (Percent.encode EncodeSet.userinfo (String.ofList name),
      Percent.encode EncodeSet.userinfo (String.ofList pass), cs.drop (i + 1))

/-- The text of a host: up to a colon outside brackets, a slash, `?` or `#` (or a backslash
    for a special scheme). -/
def hostText (special : Bool) : List Char → Bool → List Char × List Char
  | [], _ => ([], [])
  | c :: rest, inside =>
    if (c = ':' && !inside) || c = '/' || c = '?' || c = '#' || (special && c = '\\') then
      ([], c :: rest)
    else
      let (h, after) := hostText special rest (if c = '[' then true else if c = ']' then false else inside)
      (c :: h, after)

/-- Reads a port: digits up to a slash, backslash, `?`, `#` or the end. -/
def readPort (scheme : String) (cs : List Char) : Except UrlError (Option Nat × List Char) := do
  let digits := cs.takeWhile Char.isDigit
  let rest := cs.drop digits.length
  let n := digits.foldl (fun acc c => acc * 10 + (c.toNat - 48)) (0 : Nat)
  -- a long run of digits passes the limit on the way
  if n > 65535 then throw .invalidPort
  match rest with
  | c :: _ => if !(c = '/' || c = '\\' || c = '?' || c = '#') then throw .invalidPort
  | [] => pure ()
  pure (if digits.isEmpty || defaultPort scheme = some n then none else some n, rest)

/-- Reads the authority after `//` and what follows it. -/
def readAuthority (scheme : String) (cs : List Char) : Except UrlError Url := do
  let special := isSpecialScheme scheme
  let (username, password, rest) ← readUserinfo special cs
  let (hostChars, rest) := hostText special rest false
  if special && hostChars.isEmpty then throw .emptyHost
  let host ← if special then Host.parse (String.ofList hostChars)
    else Host.parseOpaque (String.ofList hostChars)
  if host = .domain "" && (rest.head? = some ':' || !(username.isEmpty && password.isEmpty)) then
    throw .emptyHost
  let (port, rest) ← match rest with
    | ':' :: after => readPort scheme after
    | _ => pure (none, rest)
  let u : Url := { scheme, username, password, host := some host, port }
  -- the path starts after one slash; an empty host leaves the slash to the path
  match host, rest with
  | .domain "", _ => pure (u.withPath false [] true rest)
  | _, c :: after =>
    if c = '?' || c = '#' then
      if special then pure (u.withPath false ['/'] true rest)
      else
        let (query, fragment) := readQueryAndFragment false rest
        pure { u with query, fragment }
    else if isSlash special c then pure (u.withPath false ['/'] true after)
    else pure (u.withPath false ['/'] true rest)
  | _, [] => pure (if special then u.withPath false ['/'] true [] else u)

/-- The number of leading slashes and backslashes. -/
def slashCount (cs : List Char) : Nat := (cs.takeWhile fun c => c = '/' || c = '\\').length

/-- The `file` URL with a host (empty for none) and a path read onward from a path text. -/
def fileUrl (host : Host) (start : List Char) (hasHost : Bool) (input : List Char) : Url :=
  ({ scheme := "file", host := some host } : Url).withPath true start hasHost input

/-- Reads a `file` URL's host after two slashes, and what follows it. -/
def readFileAuthority (cs : List Char) : Except UrlError Url := do
  let hostChars := cs.takeWhile fun c => !(c = '/' || c = '\\' || c = '?' || c = '#')
  let rest := cs.drop hostChars.length
  if UrlPath.isDriveLetter hostChars || hostChars.isEmpty then
    -- no host: the path begins here, after a slash of its own
    pure (fileUrl (.domain "") ['/'] false cs)
  else
    let h ← Host.parse (String.ofList hostChars)
    if h = .domain "localhost" then pure (fileUrl (.domain "") [] false rest)
    else
      match rest with
      | c :: after => pure (fileUrl h ['/'] true (if isSlash true c then after else rest))
      | [] => pure (fileUrl h ['/'] true [])

/-- The written path of a URL. -/
def pathChars (u : Url) : List Char := u.path.text.toList

/-- Reads a `file` URL after its scheme, or a text against a `file` base. -/
def readFile (base : Option Url) (cs : List Char) : Except UrlError Url :=
  match cs with
  | c :: rest =>
    if isSlash true c then
      match rest with
      | d :: rest' =>
        if isSlash true d then readFileAuthority rest'
        else .ok (fileAfterSlash base rest cs)
      | [] => .ok (fileAfterSlash base rest cs)
    else
      match base with
      | some b =>
        if c = '?' then
          let (query, fragment) := readQueryAndFragment true cs
          .ok { b with query, fragment }
        else if c = '#' then
          let (_, fragment) := readQueryAndFragment true cs
          .ok { b with fragment }
        else if !UrlPath.startsWithDriveLetter cs then
          .ok ({ b with query := none, fragment := none }.withPath true
            (UrlPath.popSegment true b.pathChars) false cs)
        else .ok (fileUrl (.domain "") ['/'] false cs)
      | none => .ok (fileUrl (.domain "") ['/'] false cs)
  | [] =>
    match base with
    | some b => .ok { b with fragment := none }
    | none => .ok (fileUrl (.domain "") ['/'] false [])
where
  /-- After one slash: the base's drive letter or host, unless the path has a drive
      letter of its own. -/
  fileAfterSlash (base : Option Url) (rest cs : List Char) : Url :=
    let inherited : Host × List Char :=
      if UrlPath.startsWithDriveLetter rest then (.domain "", [])
      else
        match base with
        | some b =>
          let first := ((b.pathChars.drop 1).takeWhile (· ≠ '/'))
          if UrlPath.isNormalizedDriveLetter first then (.domain "", '/' :: first)
          else ((b.host.getD (.domain "")), [])
        | none => (.domain "", [])
    fileUrl inherited.1 inherited.2 false cs

/-- Reads a URL relative to a base of another scheme than `file` that can be a base. -/
def readRelative (base : Url) (cs : List Char) : Except UrlError Url :=
  let special := base.isSpecial
  let inherited : Url := { base with query := none, fragment := none }
  match cs with
  | [] => .ok { base with fragment := none }
  | c :: rest =>
    if c = '/' || c = '\\' then
      let slashes := slashCount cs
      if slashes ≥ 2 then
        match cs with
        | '/' :: '/' :: after => readAuthority base.scheme after
        | _ => readAuthority base.scheme (cs.drop slashes)
      else .ok (inherited.withPath false ['/'] true rest)
    else if c = '?' then
      let (query, fragment) := readQueryAndFragment special cs
      .ok { base with query, fragment }
    else if c = '#' then
      let (_, fragment) := readQueryAndFragment special cs
      .ok { base with fragment }
    else
      let start := UrlPath.popSegment false base.pathChars
      -- a path always starts with a slash
      .ok (inherited.withPath false (if start.isEmpty then ['/'] else start) true cs)

/-- Splits off a scheme: an ASCII letter, then letters, digits, `+`, `-` or `.`, then a
    colon. -/
def splitScheme (cs : List Char) : Option (String × List Char) :=
  match cs with
  | c :: _ =>
    if c.isAlpha then
      let name := cs.takeWhile fun c => c.isAlphanum || c = '+' || c = '-' || c = '.'
      match cs.drop name.length with
      | ':' :: rest => some (asciiLower (String.ofList name), rest)
      | _ => none
    else none
  | [] => none

/-- Drops blanks and controls around a text and tabs and line breaks inside it. -/
def clean (s : String) : List Char :=
  let cs := s.toList.dropWhile (·.toNat ≤ 32)
  let cs := (cs.reverse.dropWhile (·.toNat ≤ 32)).reverse
  cs.filter fun c => c ≠ '\t' && c ≠ '\n' && c ≠ '\r'

/-- Reads a URL, against a base if one is given. -/
def parse (input : String) (base : Option Url := none) : Except UrlError Url :=
  let cs := clean input
  match splitScheme cs with
  | some (scheme, rest) =>
    if scheme = "file" then readFile (base.filter (·.scheme = "file")) rest
    else if isSpecialScheme scheme then
      let slashes := slashCount rest
      match base with
      | some b =>
        if slashes < 2 && b.scheme = scheme then readRelative b rest
        else readAuthority scheme (rest.drop slashes)
      | none => readAuthority scheme (rest.drop slashes)
    else
      match rest with
      | '/' :: '/' :: after => readAuthority scheme after
      | '/' :: after => .ok (({ scheme } : Url).withPath false ['/'] false after)
      | _ =>
        let raw := rest.takeWhile fun c => c ≠ '?' && c ≠ '#'
        let (query, fragment) := readQueryAndFragment false (rest.drop raw.length)
        .ok { scheme, path := .plain (Percent.encode EncodeSet.controls (String.ofList raw)),
              query, fragment }
  | none =>
    match base with
    | none => .error .relativeUrlWithoutBase
    | some b =>
      match cs with
      | '#' :: _ =>
        let (_, fragment) := readQueryAndFragment false cs
        .ok { b with fragment }
      | _ =>
        if b.cannotBeABase then .error .relativeUrlWithCannotBeABaseBase
        else if b.scheme = "file" then readFile base cs
        else readRelative b cs

/-- Reads a URL against this one. -/
def join (base : Url) (input : String) : Except UrlError Url :=
  parse input (some base)

/-! ## Queries -/

/-- The name-value pairs of the query. -/
def queryPairs (u : Url) : List (String × String) :=
  match u.query with
  | some q => Form.parse q
  | none => []

/-- Appends form-encoded pairs to the query, after a `&` when it is not empty. -/
def appendPairs (u : Url) (pairs : List (String × String)) : Url :=
  let added := Form.serialize pairs
  match u.query with
  | some q => { u with query := some (if q.isEmpty then added else q ++ "&" ++ added) }
  | none => { u with query := some added }

end Url

end FeatureFlags
