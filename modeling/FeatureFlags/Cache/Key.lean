import FeatureFlags.Web.Url
import FeatureFlags.Digest.Md5

/-!
# Cache keys

A cached response is found by the key of its request: the lowercase hexadecimal MD5 of
the method in ASCII capitals, a space, and the canonical URL. The canonical URL has no
fragment, and its query pairs sorted and form-encoded again; an empty query is dropped,
so that `?`, `?&` and no query give one key, and so do `?a` and `?a=`.
-/

namespace FeatureFlags

/-- The key of a cached request: 32 lowercase hexadecimal digits. -/
structure CacheKey where
  text : String
  deriving Repr, DecidableEq, Inhabited

namespace CacheKey

/-- Whether a text is a key: 32 lowercase hexadecimal digits. -/
def isKeyText (s : String) : Bool :=
  s.length = 32 && s.toList.all Hex.isLowerDigit

/-- A key from its text, if it is one. -/
def ofHex? (s : String) : Option CacheKey :=
  if isKeyText s then some ⟨s⟩ else none

/-- The order of name-value pairs: by name, then by value. -/
def pairLE (a b : String × String) : Bool :=
  a.1 < b.1 || (a.1 = b.1 && a.2 ≤ b.2)

/-- The canonical text of a URL. -/
def canonical (u : Url) : String :=
  let u := { u with fragment := none }
  let pairs := u.queryPairs
  if pairs.isEmpty then { u with query := none }.text
  else { u with query := some (Form.serialize (pairs.mergeSort pairLE)) }.text

/-- ASCII capitals of a text. -/
def asciiUpper (s : String) : String :=
  String.ofList (s.toList.map fun c => if 'a' ≤ c && c ≤ 'z' then Char.ofNat (c.toNat - 32) else c)

/-- The key of a request. -/
def ofRequest (method : String) (u : Url) : CacheKey :=
  ⟨Md5.hexDigest (Utf8.encode (asciiUpper method ++ " " ++ canonical u))⟩

end CacheKey

end FeatureFlags
