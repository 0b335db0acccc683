import FeatureFlags.Web.DomainMapping
import FeatureFlags.Web.Punycode
import FeatureFlags.Text.NormalForm
import FeatureFlags.Text.GeneralCategory
import FeatureFlags.Text.BidiClass
import FeatureFlags.Text.JoiningType

/-!
# Internationalized domain names

The ASCII form of a domain of a URL follows the compatibility processing of internationalized
domain names (nontransitional, without the hyphen and length checks of DNS):

1. each character is mapped by the table (`DomainMapping`); a disallowed one fails;
2. the text is brought to normalization form C (`NormalForm.nfc`);
3. a character that a URL forbids in a domain fails;
4. the text is split into labels at dots; a label that begins with `xn--` is read as
   Punycode, and must decode to a text that is not all ASCII, is in normalization form C and
   has valid characters only;
5. every label is checked: it does not begin with a combining mark; a zero-width joiner
   follows a virama; a zero-width non-joiner follows a virama or stands between a letter
   that joins to the right and one that joins to the left, with only transparent characters
   around it; and when some label has a right-to-left character or an Arabic digit, every
   label satisfies the bidirectional rule (`satisfiesBidiRule`);
6. each label that is not ASCII is written as `xn--` and its Punycode; the encoder takes at
   most 1000 characters, and the decoder at most 2000.

* `DomainName.toAscii`: the ASCII form of a domain, or why it has none.
-/

namespace FeatureFlags

/-- Why a domain has no ASCII form. -/
inductive DomainError where
  /-- A character that the mapping table disallows. -/
  | disallowedCharacter
  /-- A character that a URL forbids in a domain. -/
  | forbiddenCharacter
  /-- A label in `xn--` form that does not decode to a valid label. -/
  | invalidPunycode
  /-- A label that begins with a combining mark. -/
  | leadingMark
  /-- A joiner where the joining rules do not allow it. -/
  | misplacedJoiner
  /-- A label of a domain with right-to-left text that breaks the bidirectional rule. -/
  | bidiRule
  /-- A label too long for the Punycode encoder or decoder. -/
  | labelTooLong
  deriving Repr, DecidableEq

namespace DomainName

/-- The characters of a domain after the mapping table, or the disallowed one. -/
def mapChars : List Char → Except DomainError (List Char)
  | [] => .ok []
  | c :: rest =>
    match DomainMapping.status c.toNat, mapChars rest with
    | _, .error e => .error e
    | .valid, .ok out => .ok (c :: out)
    | .mapped replacement, .ok out => .ok (replacement ++ out)
    | .ignored, .ok out => .ok out
    | .disallowed, .ok _ => .error .disallowedCharacter

/-- Whether an ASCII character may not stand in a domain of a URL. -/
def forbidden (c : Char) : Bool :=
  let n := c.toNat
  n ≤ 32 || n = 127 || "%#/:<>?@[\\]^|".toList.contains c

/-- Whether every character of a text is ASCII. -/
def isAscii (cs : List Char) : Bool := cs.all (·.toNat < 128)

/-- The zero-width non-joiner and joiner. -/
def nonJoiner : Char := Char.ofNat 0x200C
def joiner : Char := Char.ofNat 0x200D

/-- Whether the characters before a non-joiner (nearest first) reach, past transparent
    ones, a character that joins to its right. -/
def joinsOnward : List Char → Bool
  | [] => false
  | c :: rest =>
    match JoiningType.of c.toNat with
    | .transparent => joinsOnward rest
    | .leftJoining | .dualJoining => true
    | _ => false

/-- Whether the characters after a non-joiner reach, past transparent ones, a character
    that joins to its left. -/
def joinsBackward : List Char → Bool
  | [] => false
  | c :: rest =>
    match JoiningType.of c.toNat with
    | .transparent => joinsBackward rest
    | .rightJoining | .dualJoining => true
    | _ => false

/-- Whether a joiner may stand between `before` (nearest first) and `after`: after a
    virama, or for a non-joiner also between characters that would otherwise join. -/
def joinerAllowed (before : List Char) (c : Char) (after : List Char) : Bool :=
  before.head?.any (CombiningClass.isVirama ·.toNat) ||
    (c == nonJoiner && joinsOnward before && joinsBackward after)

/-- Whether every joiner of a label is allowed where it stands, `before` holding the
    characters before the rest (nearest first). -/
def joinersPlaced (before : List Char) : List Char → Bool
  | [] => true
  | c :: rest =>
    ((c != joiner && c != nonJoiner) || joinerAllowed before c rest) &&
      joinersPlaced (c :: before) rest

/-- Whether a character is written right to left or is an Arabic digit. -/
def isRightToLeft (c : Char) : Bool :=
  match BidiClass.of c.toNat with
  | .rightToLeft | .arabicLetter | .arabicNumber => true
  | _ => false

/-- The classes that may follow the first character of a left-to-right label. -/
def allowedLeftToRight : BidiClass → Bool
  | .leftToRight | .europeanNumber | .europeanSeparator | .commonSeparator
  | .europeanTerminator | .otherNeutral | .boundaryNeutral | .nonspacingMark => true
  | _ => false

/-- The classes that may follow the first character of a right-to-left label. -/
def allowedRightToLeft : BidiClass → Bool
  | .rightToLeft | .arabicLetter | .arabicNumber | .europeanNumber | .europeanSeparator
  | .commonSeparator | .europeanTerminator | .otherNeutral | .boundaryNeutral
  | .nonspacingMark => true
  | _ => false

/-- The bidirectional rule for a label: it begins with a left-to-right or a right-to-left
    character; a left-to-right label has only left-to-right characters, European numbers,
    separators and neutrals, and ends (before nonspacing marks) in a left-to-right
    character or a European digit; a right-to-left label has only right-to-left characters,
    numbers, separators and neutrals, does not mix European and Arabic digits, and ends
    (before nonspacing marks) in a right-to-left character or a digit. -/
def satisfiesBidiRule (label : List Char) : Bool :=
  let classes := label.map (BidiClass.of ·.toNat)
  let last := (classes.reverse.dropWhile (· == .nonspacingMark)).head?
  match classes with
  | [] => true
  | .leftToRight :: rest =>
    rest.all allowedLeftToRight &&
      last.all fun c => c == .leftToRight || c == .europeanNumber
  | first :: rest =>
    (first == .rightToLeft || first == .arabicLetter) &&
      rest.all allowedRightToLeft &&
      last.any (fun c => c == .rightToLeft || c == .arabicLetter ||
        c == .europeanNumber || c == .arabicNumber) &&
      !(rest.contains .europeanNumber && rest.contains .arabicNumber)

/-- A label of a domain: its text after mapping, its characters (decoded when it is in
    `xn--` form) and whether it was in that form. -/
structure Label where
  text : List Char
  chars : List Char
  encoded : Bool

/-- The longest Punycode that is decoded, and the longest label that is encoded. -/
def decodeLimit : Nat := 2000
def encodeLimit : Nat := 1000

/-- Reads a label, decoding one in `xn--` form. -/
def readLabel (text : List Char) : Except DomainError Label :=
  match text with
  | 'x' :: 'n' :: '-' :: '-' :: code =>
    if !isAscii code then .error .invalidPunycode
    else if code.length > decodeLimit then .error .labelTooLong
    else
      match Punycode.decode? (String.ofList code) with
      | none => .error .invalidPunycode
      | some decoded =>
        let chars := decoded.toList
        if chars.isEmpty || isAscii chars || !NormalForm.isNfc chars ||
            !chars.all (fun c => DomainMapping.status c.toNat == .valid) ||
            chars.take 4 == ['x', 'n', '-', '-'] then .error .invalidPunycode
        else .ok { text, chars, encoded := true }
  | _ => .ok { text, chars := text, encoded := false }

/-- Checks the marks and joiners of a label. -/
def checkLabel (label : Label) : Except DomainError Unit :=
  if label.chars.head?.any (fun c => (GeneralCategory.of c.toNat).isMark) then .error .leadingMark
  else if !joinersPlaced [] label.chars then .error .misplacedJoiner
  else .ok ()

/-- The ASCII text of a checked label. -/
def writeLabel (label : Label) : Except DomainError String :=
  if label.encoded || isAscii label.chars then .ok (String.ofList label.text)
  else if label.chars.length > encodeLimit then .error .labelTooLong
  else .ok ("xn--" ++ Punycode.encode (String.ofList label.chars))

/-- The ASCII form of a domain. -/
def toAscii (domain : String) : Except DomainError String := do
  let mapped ← mapChars domain.toList
  let normal := NormalForm.nfc mapped
  if normal.any forbidden then throw .forbiddenCharacter
  let labels ← ((String.ofList normal).splitOn ".").mapM (readLabel ·.toList)
  labels.forM checkLabel
  if labels.any (·.chars.any isRightToLeft) && !labels.all (satisfiesBidiRule ·.chars) then
    throw .bidiRule
  let written ← labels.mapM writeLabel
  pure (".".intercalate written)

end DomainName

end FeatureFlags
