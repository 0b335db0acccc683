import FeatureFlags.Service.Exchange
import FeatureFlags.Text.CodeTable
import FeatureFlags.Number.Decimal

/-!
# Which answers are cached, and for which requests

An answer is cached unless a `cache-control` header holds the directive `no-store` or a
`vary` header holds the field `*`. A cached record keeps the values, in the request, of
the headers its answer varies on (its vary keys): it serves a later request only when
that request sends the same values, a header not sent counting as the empty value.

A record with validators makes the next request conditional: its `etag` is sent as
`if-none-match` and its `last-modified` as `if-modified-since`, each when it is a valid
header value. A "not modified" answer keeps the record's body and merges its headers
into the record's: the new headers (less `content-length`) replace the stored ones of the
same name, up to ASCII case, and come after them.

The server reports the time of its flag data in `x-flagsmith-document-updated-at`: the
first such header, blanks trimmed, read as a finite double.

* `varyKeys?`: the vary keys of an answer, or `none` when it must not be cached;
* `VaryKeys.fits`: whether a record's vary keys fit the headers sent;
* `mergeHeaders`: the headers of a revalidated record.
-/

namespace FeatureFlags

/-- The header in which the server reports the update time of its data. -/
def updatedAtHeader : String := "x-flagsmith-document-updated-at"

/-- The update time reported in some headers, if a finite one is. -/
def updatedAt? (headers : List (String × String)) : Option Float :=
  (findHeader headers updatedAtHeader).bind fun v =>
    (Float.parseStandard? (String.trimSpace v)).filter fun x => !x.isNaN && !x.isInf

/-- ASCII small letters of a text. -/
def asciiLower (s : String) : String :=
  String.ofList (s.toList.map fun c => if 'A' ≤ c && c ≤ 'Z' then Char.ofNat (c.toNat + 32) else c)

/-- The comma-separated items of a header value, blanks trimmed. -/
def headerItems (value : String) : List String :=
  (value.toList.splitOn ',').map fun item => String.trimSpace (String.ofList item)

/-- Whether a header forbids caching its answer. -/
def forbidsStoring (name value : String) : Bool :=
  sameHeaderName name "cache-control" && (headerItems value).any (sameHeaderName · "no-store")

namespace VaryKeys

/-- The value of a name. -/
def get? (vk : VaryKeys) (name : String) : Option String :=
  (vk.pairs.find? (·.1 == name)).map (·.2)

/-- The value of a name as a header sent: the empty text when not sent. -/
def sent (vk : VaryKeys) (name : String) : String := (vk.get? name).getD ""

/-- Whether a record with these vary keys serves a request that sends `headers`. -/
def fits (vk : VaryKeys) (headers : VaryKeys) : Bool :=
  vk.pairs.all fun (name, value) => value == headers.sent name

end VaryKeys

/-- Adds the fields of one `vary` header to vary keys; `none` for the field `*`. -/
def addVaryFields (sent : VaryKeys) : List String → VaryKeys → Option VaryKeys
  | [], keys => some keys
  | field :: rest, keys =>
    if field.isEmpty then addVaryFields sent rest keys
    else if field == "*" then none
    else
      let name := asciiLower field
      addVaryFields sent rest (keys.insert name (sent.sent name))

/-- The vary keys of an answer to a request that sent `sent`, or `none` when the answer
    must not be cached. -/
def varyKeys? (sent : VaryKeys) : List (String × String) → VaryKeys → Option VaryKeys
  | [], keys => some keys
  | (name, value) :: rest, keys =>
    if forbidsStoring name value then none
    else if sameHeaderName name "vary" then
      (addVaryFields sent (headerItems value) keys).bind (varyKeys? sent rest)
    else varyKeys? sent rest keys

/-- Whether a text is a valid header value: no control character but the tab. -/
def isHeaderValue (s : String) : Bool :=
  (Utf8.encode s).all fun b => (b ≥ 32 && b != 127) || b == 9

/-- The validators of a record, as the headers of a conditional request. -/
def conditionalHeaders (record : CacheRecord) : List (String × String) :=
  let valid (name : String) : Option String := (record.header? name).filter isHeaderValue
  (match valid "etag" with
    | some v => [("if-none-match", v)]
    | none => []) ++
  (match valid "last-modified" with
    | some v => [("if-modified-since", v)]
    | none => [])

/-- The headers of a record after a "not modified" answer with `fresh` headers. -/
def mergeHeaders (stored fresh : List (String × String)) : List (String × String) :=
  let fresh := fresh.filter fun (name, _) => !sameHeaderName name "content-length"
  stored.filter (fun (k, _) => !fresh.any fun (name, _) => sameHeaderName name k) ++ fresh

end FeatureFlags
