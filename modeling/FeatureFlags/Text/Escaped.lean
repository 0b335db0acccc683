import FeatureFlags.Text.GeneralCategory
import FeatureFlags.Text.GraphemeExtend

/-!
# Quoted texts

The quoted form of a text, as messages show the text of a value: between double quotes,
with a backslash before a quote or a backslash, the escapes `\0`, `\t`, `\r` and `\n`, and
every other character that cannot be shown as itself written `\u` and its code point in
lowercase hexadecimal between braces. A character is shown as itself when it is printable,
that is of a category other than the others (controls, formats, surrogates, private use,
unassigned) and the separators, the space excepted, and when it does not extend a grapheme
cluster (a combining mark would join the character before it).

* `Escaped.quote`: the quoted form of a text.
-/

namespace FeatureFlags

namespace Escaped

/-- Whether a character can be shown as itself. -/
def isPrintable (c : Char) : Bool :=
  let category := GeneralCategory.of c.toNat
  c == ' ' || !(category.isOther || category.isSeparator)

/-- The escape of a character by its code point. -/
def codePoint (c : Char) : String :=
  "\\u" ++ "\x7b" ++ String.ofList (Nat.toDigits 16 c.toNat) ++ "\x7d"

/-- How a character stands in a quoted text. -/
def char (c : Char) : String :=
  match c with
  | '\x00' => "\\0"
  | '\t' => "\\t"
  | '\r' => "\\r"
  | '\n' => "\\n"
  | '\\' => "\\\\"
  | '"' => "\\\""
  | c =>
    if GraphemeExtend.contains c.toNat || !isPrintable c then codePoint c
    else String.singleton c

/-- The quoted form of a text. -/
def quote (s : String) : String :=
  "\"" ++ String.join (s.toList.map char) ++ "\""

end Escaped

end FeatureFlags
