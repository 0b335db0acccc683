import FeatureFlags.Text.CodeTable

/-!
# Bidirectional classes of characters

Every code point has a bidirectional class, which says how it takes part in the ordering
of mixed left-to-right and right-to-left text: a strong direction (left-to-right, Hebrew
right-to-left, Arabic letter), a weak one (numbers and their separators, nonspacing marks,
boundary neutrals), a neutral, or an explicit formatting character.

The table (`BidiClass.tableText`, a `CodeTable` text whose values are the short names of the
classes) is that of Unicode 15, with the characters assigned since then given the class of
their kind: nonspacing and enclosing marks are nonspacing marks, symbols outside the
right-to-left ranges are other neutrals, and all others keep the class of their range.

* `BidiClass.of`: the class of a code point.
-/

namespace FeatureFlags

/-- The bidirectional class of a character. -/
inductive BidiClass where
  | leftToRight
  | rightToLeft
  | arabicLetter
  | europeanNumber
  | europeanSeparator
  | europeanTerminator
  | arabicNumber
  | commonSeparator
  | nonspacingMark
  | boundaryNeutral
  | paragraphSeparator
  | segmentSeparator
  | whiteSpace
  | otherNeutral
  | leftToRightEmbedding
  | leftToRightOverride
  | rightToLeftEmbedding
  | rightToLeftOverride
  | popDirectionalFormat
  | leftToRightIsolate
  | rightToLeftIsolate
  | firstStrongIsolate
  | popDirectionalIsolate
  deriving Repr, DecidableEq, Inhabited

namespace BidiClass

/-- The class of a short name (left-to-right for any other text). -/
def ofName : String → BidiClass
  | "R" => .rightToLeft
  | "AL" => .arabicLetter
  | "EN" => .europeanNumber
  | "ES" => .europeanSeparator
  | "ET" => .europeanTerminator
  | "AN" => .arabicNumber
  | "CS" => .commonSeparator
  | "NSM" => .nonspacingMark
  | "BN" => .boundaryNeutral
  | "B" => .paragraphSeparator
  | "S" => .segmentSeparator
  | "WS" => .whiteSpace
  | "ON" => .otherNeutral
  | "LRE" => .leftToRightEmbedding
  | "LRO" => .leftToRightOverride
  | "RLE" => .rightToLeftEmbedding
  | "RLO" => .rightToLeftOverride
  | "PDF" => .popDirectionalFormat
  | "LRI" => .leftToRightIsolate
  | "RLI" => .rightToLeftIsolate
  | "FSI" => .firstStrongIsolate
  | "PDI" => .popDirectionalIsolate
  | _ => .leftToRight

/-- The runs of bidirectional classes (see the module comment). -/
def tableText : String :=
  ",".intercalate
    ["9:S,1:B,1:S,1:WS,1:B,1:BN,e:B,3:S,1:WS,1:ON,2:ET,3:ON,5:ES,1:CS,1:ES,1:CS,2:EN,a:CS",
     "1:ON,6:L,1a:ON,6:L,1a:ON,4:BN,6:B,1:BN,1a:CS,1:ON,1:ET,4:ON,4:L,1:ON,2:BN,1:ON,2:ET",
     "2:EN,2:ON,1:L,1:ON,3:EN,1:L,1:ON,5:L,17:ON,1:L,1f:ON,1:L,1c1:ON,2:L,7:ON,e:L,2:ON,e:L",
     "5:ON,9:L,1:ON,11:NSM,70:L,4:ON,2:L,8:ON,1:L,5:ON,2:L,1:ON,1:L,6e:ON,1:L,8c:NSM,7:L",
     "100:ON,1:L,2:ON,2:ET,1:R,1:NSM,2d:R,1:NSM,1:R,1:NSM,2:R,1:NSM,2:R,1:NSM,1:R,38:AN,6:ON",
     "2:AL,1:ET,2:AL,1:CS,1:AL,1:ON,2:NSM,b:AL,30:NSM,15:AN,a:ET,1:AN,2:AL,3:NSM,1:AL,65:NSM",
     "7:AN,1:ON,1:NSM,6:AL,2:NSM,2:ON,1:NSM,4:AL,2:EN,a:AL,17:NSM,1:AL,1e:NSM,1b:AL,5b:NSM",
     "b:AL,f:R,2b:NSM,9:R,2:ON,4:R,3:NSM,1:R,18:NSM,4:R,1:NSM,9:R,1:NSM,3:R,1:NSM,5:R,2b:NSM",
     "3:R,4:AL,30:AN,2:AL,5:NSM,9:AL,2a:NSM,18:AN,1:NSM,20:L,37:NSM,1:L,1:NSM,1:L,4:NSM,8:L",
     "4:NSM,1:L,3:NSM,7:L,a:NSM,2:L,1d:NSM,1:L,3a:NSM,1:L,4:NSM,4:L,8:NSM,1:L,14:NSM,2:L,e:ET",
     "2:L,7:ET,1:L,2:NSM,1:L,2:NSM,2:L,39:NSM,1:L,4:NSM,2:L,4:NSM,2:L,2:NSM,3:L,3:NSM,1:L",
     "1e:NSM,2:L,3:NSM,1:L,b:NSM,2:L,39:NSM,1:L,4:NSM,5:L,1:NSM,2:L,4:NSM,1:L,14:NSM,2:L,d:ET",
     "1:L,8:NSM,6:L,1:NSM,1:L,3a:NSM,1:L,2:NSM,1:L,1:NSM,4:L,8:NSM,1:L,7:NSM,2:L,b:NSM,2:L",
     "1e:NSM,1:L,3d:NSM,1:L,c:NSM,1:L,25:ON,6:ET,1:ON,1:L,5:NSM,1:L,3:NSM,1:L,37:NSM,1:L",
     "1:NSM,3:L,5:NSM,3:L,1:NSM,4:L,7:NSM,2:L,b:NSM,2:L,14:ON,7:L,2:NSM,1:L,3a:NSM,1:L,f:NSM",
     "2:L,14:NSM,2:L,1c:NSM,2:L,39:NSM,2:L,4:NSM,4:L,8:NSM,1:L,14:NSM,2:L,1d:NSM,1:L,48:NSM",
     "1:L,7:NSM,3:L,1:NSM,1:L,5a:NSM,1:L,2:NSM,7:L,4:ET,1:L,7:NSM,8:L,62:NSM,1:L,2:NSM,9:L",
     "b:NSM,7:L,49:NSM,2:L,1b:NSM,1:L,1:NSM,1:L,1:NSM,1:ON,4:L,33:NSM,e:L,1:NSM,5:L,1:NSM,2:L",
     "5:NSM,b:L,1:NSM,24:L,9:NSM,1:L,66:NSM,4:L,1:NSM,6:L,1:NSM,2:L,2:NSM,2:L,19:NSM,2:L",
     "4:NSM,3:L,10:NSM,4:L,d:NSM,1:L,2:NSM,2:L,6:NSM,1:L,f:NSM,1:L,2bf:NSM,3:L,30:ON,a:L",
     "66:ON,1:L,27f:WS,1:L,1a:ON,2:L,75:NSM,3:L,1d:NSM,2:L,1e:NSM,2:L,1e:NSM,2:L,40:NSM,2:L",
     "1:NSM,7:L,8:NSM,1:L,2:NSM,b:L,7:ET,1:L,1:NSM,1:L,12:ON,a:L,6:ON,b:NSM,3:BN,1:NSM,1:L",
     "75:NSM,2:L,22:NSM,1:L,76:NSM,3:L,4:NSM,2:L,9:NSM,1:L,6:NSM,3:L,4:ON,1:L,3:ON,2:L,98:ON",
     "22:L,17:NSM,2:L,2:NSM,1:L,3a:NSM,1:L,1:NSM,7:L,1:NSM,1:L,1:NSM,1:L,2:NSM,8:L,6:NSM,a:L",
     "2:NSM,1:L,30:NSM,2e:L,2:NSM,c:L,14:NSM,4:L,30:NSM,1:L,1:NSM,5:L,1:NSM,1:L,5:NSM,1:L",
     "28:NSM,9:L,c:NSM,2:L,20:NSM,4:L,2:NSM,2:L,1:NSM,3:L,38:NSM,1:L,1:NSM,2:L,3:NSM,1:L",
     "1:NSM,3:L,3a:NSM,8:L,2:NSM,2:L,98:NSM,3:L,1:NSM,d:L,1:NSM,7:L,4:NSM,1:L,6:NSM,1:L,3:NSM",
     "2:L,c6:NSM,40:L,1bd:ON,1:L,1:ON,3:L,b:ON,3:L,d:ON,3:L,d:ON,3:L,d:ON,2:L,1:WS,b:BN,3:L",
     "1:R,1:ON,18:WS,1:B,1:LRE,1:RLE,1:PDF,1:LRO,1:RLO,1:CS,1:ET,5:ON,f:CS,1:ON,1a:WS,1:BN",
     "6:LRI,1:RLI,1:FSI,1:PDI,1:BN,6:EN,1:L,3:EN,6:ES,2:ON,3:L,1:EN,a:ES,2:ON,3:L,11:ET",
     "30:NSM,21:L,f:ON,2:L,1:ON,4:L,1:ON,2:L,a:ON,1:L,1:ON,3:L,5:ON,6:L,1:ON,1:L,1:ON,1:L",
     "1:ON,1:L,4:ET,1:L,b:ON,2:L,4:ON,5:L,5:ON,4:L,2:ON,10:L,29:ON,3:L,4:ON,82:ES,1:ET,1:ON",
     "122:L,45:ON,1a:L,1:ON,94:L,16:ON,b:L,15:ON,28:EN,14:L,4e:ON,1c2:L,1:ON,153:L,100:ON",
     "274:L,2:ON,8a:L,e5:ON,6:L,4:NSM,3:L,7:ON,7:L,7f:NSM,1:L,60:NSM,20:ON,5e:L,22:ON,1a:L",
     "1:ON,59:L,c:ON,d6:L,1a:ON,10:WS,1:ON,4:L,3:ON,19:L,9:NSM,4:L,2:ON,1:L,5:ON,2:L,5:ON,3:L",
     "59:NSM,2:ON,2:L,3:ON,1:L,5a:ON,1:L,c4:ON,26:L,9:ON,1:L,2d:ON,2:L,31:ON,10:L,1c:ON,3:L",
     "32:ON,f:L,c:ON,4:L,a7:ON,4:L,63:ON,2:L,1f:ON,1:L,19c0:ON,40:L,5690:ON,37:L,146:ON,3:L",
     "5f:NSM,4:ON,1:NSM,a:ON,2:L,1e:NSM,2:L,50:NSM,2:L,e:ON,22:L,66:ON,1:L,79:NSM,1:L,3:NSM",
     "1:L,4:NSM,1:L,19:NSM,2:L,1:ON,4:NSM,1:L,b:ET,2:L,3a:ON,4:L,4c:NSM,2:L,1a:NSM,12:L,d:NSM",
     "1:L,26:NSM,8:L,19:NSM,b:L,2e:NSM,3:L,30:NSM,1:L,2:NSM,4:L,2:NSM,2:L,27:NSM,1:L,43:NSM",
     "6:L,2:NSM,2:L,2:NSM,2:L,c:NSM,1:L,8:NSM,1:L,2f:NSM,1:L,33:NSM,1:L,1:NSM,3:L,2:NSM,2:L",
     "5:NSM,2:L,1:NSM,1:L,2a:NSM,2:L,8:NSM,1:L,73:ON,2:L,79:NSM,1:L,2:NSM,1:L,4:NSM,1:L",
     "4f2f:R,1:NSM,1:R,a:ES,1:R,26:AL,1ee:ON,12:AL,7f:ON,1:BN,20:AL,d:ON,3:NSM,10:ON,a:L",
     "6:NSM,10:ON,20:CS,1:ON,1:CS,1:L,1:ON,1:CS,1:ON,9:ET,1:ON,2:ES,2:ON,3:L,1:ON,1:ET,2:ON",
     "1:L,4:AL,8f:BN,1:L,1:ON,2:ET,3:ON,5:ES,1:CS,1:ES,1:CS,2:EN,a:CS,1:ON,6:L,1a:ON,6:L",
     "1a:ON,b:L,7a:ET,2:ON,3:ET,2:L,1:ON,7:L,1:BN,9:ON,5:BN,2:L,101:ON,1:L,3e:ON,4d:L,3:ON",
     "d:L,3:ON,1:L,5c:NSM,1:L,e2:NSM,1:EN,1b:L,7a:NSM,5:L,485:R,11f:ON,1:R,e1:NSM,3:R,1:NSM",
     "2:R,5:NSM,4:R,28:NSM,3:R,4:NSM,1:R,a5:NSM,2:R,52:ON,7:R,1c0:AL,24:NSM,4:AL,8:AN,a:AL",
     "6:R,29:NSM,5:R,f2:AN,1f:R,2c:NSM,2:R,13:AL,3a:NSM,6:R,30:AL,16:NSM,b:AL,1f:R,12:NSM,4:R",
     "7a:L,1:NSM,1:L,36:NSM,f:L,b:ON,14:L,a:NSM,1:L,2:NSM,2:L,a:NSM,3:L,31:NSM,4:L,2:NSM,2:L",
     "7:NSM,1:L,3d:NSM,3:L,24:NSM,5:L,1:NSM,8:L,3e:NSM,1:L,c:NSM,2:L,34:NSM,9:L,a:NSM,4:L",
     "2:NSM,1:L,5f:NSM,3:L,2:NSM,1:L,1:NSM,2:L,6:NSM,1:L,2:NSM,1:L,9d:NSM,1:L,3:NSM,8:L",
     "15:NSM,2:L,39:NSM,2:L,3:NSM,1:L,25:NSM,7:L,3:NSM,5:L,46:NSM,6:L,d:NSM,1:L,1:NSM,1:L",
     "1:NSM,1:L,e:NSM,2:L,55:NSM,8:L,2:NSM,3:L,1:NSM,1:L,17:NSM,1:L,54:NSM,6:L,1:NSM,1:L",
     "4:NSM,2:L,1:NSM,2:L,ee:NSM,4:L,6:NSM,2:L,1:NSM,2:L,1b:NSM,2:L,55:NSM,8:L,2:NSM,1:L",
     "1:NSM,2:L,1f:ON,d:L,3e:NSM,1:L,1:NSM,1:L,2:NSM,6:L,1:NSM,1:L,65:NSM,3:L,2:NSM,4:L,1:NSM",
     "5:L,103:NSM,9:L,1:NSM,2:L,100:NSM,2:L,1:NSM,1:L,4:NSM,1:L,90:NSM,4:L,2:NSM,2:L,4:NSM",
     "1:L,20:NSM,6:L,2:NSM,2:L,28:NSM,6:L,2:NSM,4:L,8:NSM,1:L,9:NSM,6:L,2:NSM,3:L,2e:NSM,d:L",
     "1:NSM,2:L,c6:NSM,1:L,1:NSM,3:L,1:NSM,1:L,c9:NSM,7:L,1:NSM,6:L,54:NSM,16:L,2:NSM,7:L",
     "1:NSM,2:L,1:NSM,2:L,7a:NSM,6:L,3:NSM,1:L,1:NSM,2:L,1:NSM,7:L,1:NSM,1:L,48:NSM,2:L,3:NSM",
     "1:L,1:NSM,1:L,15b:NSM,2:L,b:NSM,2:L,34:NSM,5:L,5:NSM,1:L,1:NSM,1:L,17:NSM,1:L,7a:ON",
     "8:ET,4:ON,11:L,144e:NSM,1:L,6:NSM,f:L,2cc8:NSM,c:L,3:NSM,3:L,9c0:NSM,5:L,3b:NSM,7:L",
     "418:NSM,1:L,3f:NSM,4:L,4f:ON,1:L,1:NSM,1:L,4cb8:NSM,2:L,1:BN,4:L,f5c:ON,f0:L,a:ON,3:L",
     "3:ON,1b4:L,6:ON,17:L,f:ON,11:L,f:NSM,2e:L,2:NSM,17:L,220:NSM,3:L,9:BN,8:NSM,8:L,2:NSM",
     "7:L,1e:NSM,4:L,3b:ON,2:L,15:ON,42:NSM,3:ON,1:L,ba:ON,57:L,384:ON,1:L,39:ON,1:L,39:ON",
     "1:L,39:ON,1:L,39:ON,1:L,a:EN,32:L,200:NSM,37:L,4:NSM,32:L,8:NSM,1:L,e:NSM,1:L,16:NSM",
     "5:L,1:NSM,f:L,550:NSM,7:L,1:NSM,11:L,2:NSM,7:L,1:NSM,2:L,1:NSM,5:L,64:NSM,1:L,a0:NSM",
     "7:L,177:NSM,1:L,3d:NSM,4:L,f:ET,1:L,1ec:NSM,4:L,fe:NSM,2:L,f3:NSM,1:L,2:NSM,1:L,7:NSM",
     "2:L,5:NSM,1:L,10a:R,d0:NSM,7:R,6d:NSM,7:R,325:AL,50:R,40:AL,50:R,b0:AL,f0:ON,2:AL,e:R",
     "100:ON,2c:L,4:ON,64:L,c:ON,f:L,2:ON,f:L,1:ON,f:L,1:ON,25:L,a:EN,b:ON,5:L,1f:ON,1:L",
     "3a:ON,6:L,3d:ON,1:L,b2:ON,6:L,9a:ON,3d9:L,3:ON,11:L,3:ON,d:L,3:ON,da:L,6:ON,c:L,4:ON",
     "1:L,f:ON,c:L,4:ON,38:L,8:ON,a:L,6:ON,28:L,8:ON,1e:L,2:ON,c:L,4:ON,2:L,e:ON,9:L,27:ON",
     "158:L,8:ON,e:L,2:ON,d:L,3:ON,b:L,3:ON,39:L,1:ON,1:L,4:ON,10:L,2:ON,c:L,4:ON,a:L,7:ON",
     "93:L,1:ON,5c:EN,a:ON,1:L,403:BN,2:L,fffe:BN,2:L,fffe:BN,2:L,fffe:BN,2:L,fffe:BN,2:L",
     "fffe:BN,2:L,fffe:BN,2:L,fffe:BN,2:L,fffe:BN,2:L,fffe:BN,2:L,fffe:BN,2:L,fffe:BN,2:L",
     "fffe:BN,102:NSM,f0:BN,e10:L,effe:BN,2:L,fffe:BN,2:L,fffe:BN"]


/-- The table of bidirectional classes. -/
def table : CodeTable BidiClass := CodeTable.read .boundaryNeutral ofName tableText

/-- The bidirectional class of a code point. -/
def of (cp : Nat) : BidiClass := table.get cp

end BidiClass

end FeatureFlags
