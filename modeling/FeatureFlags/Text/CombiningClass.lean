import FeatureFlags.Text.CodeTable

/-!
# Canonical combining classes

The canonical combining class of a character orders combining marks that stand after the
same base: canonical equivalence lets marks of different nonzero classes trade places, and
normal forms sort them by class. Base characters (starters) have class 0; a virama, which
kills the vowel of the consonant before it, has class 9. The table is that of Unicode 17
(`CombiningClass.tableText`, a `CodeTable` text whose values are decimal classes).

* `CombiningClass.of`: the class of a code point;
* `CombiningClass.isVirama`: whether a code point is a virama.
-/

namespace FeatureFlags

namespace CombiningClass

/-- The runs of combining classes (see the module comment). -/
def tableText : String :=
  ",".intercalate
    ["300:230,15:232,1:220,4:232,1:216,1:220,5:202,2:220,4:202,2:220,b:1,5:220,4:230,8:240",
     "1:230,1:220,3:230,3:220,2:0,1:230,3:220,4:230,1:232,1:220,2:230,1:233,1:234,2:233,1:234",
     "2:233,1:230,d:0,113:230,5:0,109:220,1:230,4:220,1:230,3:222,1:220,1:230,6:220,6:230",
     "2:220,1:230,2:222,1:228,1:230,1:10,1:11,1:12,1:13,1:14,1:15,1:16,1:17,1:18,1:19,2:20",
     "1:21,1:22,1:0,1:23,1:0,1:24,1:25,1:0,1:230,1:220,1:0,1:18,1:0,48:230,8:30,1:31,1:32,1:0",
     "30:27,1:28,1:29,1:30,1:31,1:32,1:33,1:34,1:230,2:220,2:230,5:220,1:230,2:220,1:0,10:35",
     "1:0,65:230,7:0,2:230,4:220,1:230,1:0,2:230,2:0,1:220,1:230,2:220,1:0,23:36,1:0,1e:230",
     "1:220,1:230,2:220,1:230,2:220,3:230,1:220,2:230,1:220,1:230,3:220,1:230,1:220,1:230",
     "1:220,1:230,1:220,1:230,2:0,a0:230,7:220,1:230,1:0,9:220,1:0,18:230,4:0,1:230,9:0,1:230",
     "3:0,1:230,5:0,2b:220,3:0,3b:230,2:220,3:230,4:0,2a:230,5:220,5:230,e:0,1:220,1:230",
     "2:220,1:230,2:220,1:230,3:220,3:27,1:28,1:29,1:230,3:220,1:230,2:220,2:230,5:0,3c:7,1:0",
     "10:9,1:0,3:230,1:220,1:230,2:0,67:7,1:0,10:9,1:0,30:230,1:0,3d:7,1:0,10:9,1:0,6e:7,1:0",
     "10:9,1:0,6e:7,1:0,10:9,1:0,7f:9,1:0,6e:7,1:0,10:9,1:0,7:84,1:91,1:0,65:7,1:0,10:9,1:0",
     "6d:9,2:0,10:9,1:0,7c:9,1:0,6d:103,2:9,1:0,d:107,4:0,6c:118,2:9,1:0,d:122,4:0,4c:220,2:0",
     "1b:220,1:0,1:220,1:0,1:216,1:0,37:129,1:130,1:0,1:132,1:0,5:130,4:0,2:130,1:0,1:230,2:9",
     "1:0,1:230,2:0,3e:220,1:0,70:7,1:0,1:9,2:0,52:220,1:0,2cf:230,3:0,3b4:9,2:0,1e:9,1:0",
     "9d:9,1:0,a:230,1:0,cb:228,1:0,8f:222,1:230,1:220,1:0,db:230,1:220,1:0,47:9,1:0,14:230",
     "8:0,2:220,1:0,30:230,5:220,6:230,2:220,1:0,1:220,2:230,2:220,2:230,5:220,1:230,12:220",
     "1:0,2:230,6:220,1:230,4:234,1:0,48:7,1:0,f:9,1:0,26:230,1:220,1:230,7:0,36:9,2:0,3a:7",
     "1:0,b:9,2:0,43:7,1:0,98:230,3:0,1:1,1:220,5:230,2:220,4:230,1:0,1:1,7:0,4:220,1:0,6:230",
     "1:0,3:230,2:0,c6:230,2:220,1:230,7:220,1:230,2:234,1:214,1:220,1:202,1:230,25:232,1:228",
     "2:220,1:218,1:230,1:233,1:220,1:230,1:220,1:0,2d0:230,2:1,2:230,4:1,3:230,2:0,4:230,1:0",
     "3:1,2:230,1:220,1:230,1:1,2:220,4:230,1:0,bfe:230,3:0,8d:9,1:0,60:230,20:0,22a:218",
     "1:228,1:232,1:222,1:224,2:0,69:8,2:0,75d4:230,1:0,4:230,a:0,20:230,2:0,50:230,2:0,114:9",
     "1:0,25:9,1:0,97:9,1:0,1b:230,12:0,39:220,3:0,25:9,1:0,5f:7,1:0,c:9,1:0,ef:230,1:0,1:230",
     "2:220,1:0,2:230,2:0,5:230,2:0,1:230,1:0,34:9,1:0,f6:9,1:0,4f30:26,1:0,301:230,7:220",
     "7:230,2:0,3cd:220,1:0,e2:220,1:0,95:230,5:0,692:220,1:0,1:230,1:0,28:230,1:1,1:220,1:0",
     "4:9,1:0,a5:230,1:220,1:0,23d:230,4:0,41:230,5:0,13d:230,2:0,4d:220,2:0,1:220,3:0,46:220",
     "2:230,3:220,1:230,1:220,4:0,31:230,1:220,1:230,1:220,1:0,c0:9,1:0,29:9,1:0,e:9,1:0,39:9",
     "1:7,1:0,45:230,3:0,30:9,2:0,3e:7,1:0,4c:9,1:0,9:7,1:0,6a:9,1:7,1:0,b2:7,1:9,1:0,50:7",
     "2:0,10:9,1:0,18:230,7:0,3:230,5:0,59:9,3:0,71:9,1:0,3:7,1:0,17:230,1:0,63:9,1:7,1:0",
     "fb:9,1:7,1:0,7e:9,1:0,76:9,1:7,1:0,73:9,1:0,10d:9,1:7,1:0,102:9,2:0,4:7,1:0,9c:9,1:0",
     "53:9,1:0,12:9,1:0,51:9,1:0,1a5:9,1:0,102:7,1:0,1:9,2:0,51:9,1:0,1a9:9,2:0,41ec:9,1:0",
     "9c0:1,5:0,3b:230,7:0,4b9:6,2:0,4cac:1,1:0,14c6:216,2:1,3:0,3:226,1:216,5:0,8:220,8:0",
     "2:230,5:220,2:0,1e:230,4:0,94:230,3:0,dbb:230,7:0,1:230,11:0,2:230,7:0,1:230,2:0,1:230",
     "5:0,64:230,1:0,a0:230,7:0,177:230,1:0,3d:230,4:0,1fc:232,2:220,1:230,1:0,fe:230,1:220",
     "1:0,f3:230,1:0,2:230,1:0,7:230,2:0,5:230,1:0,1da:220,7:0,6d:230,6:7,1:0"]


/-- The table of combining classes. -/
def table : CodeTable Nat := CodeTable.read 0 (·.toNat?.getD 0) tableText

/-- The canonical combining class of a code point. -/
def of (cp : Nat) : Nat := table.get cp

/-- The class of viramas. -/
def virama : Nat := 9

/-- Whether a code point is a virama. -/
def isVirama (cp : Nat) : Bool := of cp == virama

end CombiningClass

end FeatureFlags
