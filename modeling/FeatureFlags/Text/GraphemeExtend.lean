import FeatureFlags.Text.CodeTable

/-!
# Grapheme extenders

A grapheme extender is a character that continues the grapheme cluster before it: the
nonspacing and enclosing marks, some spacing marks, the zero-width non-joiner, the variation
selectors and a few others (the Grapheme_Extend property of Unicode 17). The table
`GraphemeExtend.setText` is a `CodeTable` text whose values are `1` inside the set and `0`
outside it.

* `GraphemeExtend.contains`: whether a code point extends a grapheme cluster.
-/

namespace FeatureFlags

namespace GraphemeExtend

/-- The runs inside and outside the set (see the module comment). -/
def setText : String :=
  ",".intercalate
    ["300:1,70:0,113:1,7:0,107:1,2d:0,1:1,1:0,1:1,2:0,1:1,2:0,1:1,1:0,48:1,b:0,30:1,15:0,10:1",
     "1:0,65:1,7:0,2:1,6:0,2:1,2:0,1:1,4:0,23:1,1:0,1e:1,1b:0,5b:1,b:0,3a:1,9:0,9:1,1:0,18:1",
     "4:0,1:1,9:0,1:1,3:0,1:1,5:0,2b:1,3:0,3b:1,9:0,2a:1,18:0,1:1,20:0,37:1,1:0,1:1,1:0,4:1",
     "8:0,4:1,1:0,3:1,7:0,a:1,2:0,1d:1,1:0,3a:1,1:0,1:1,1:0,2:1,4:0,8:1,1:0,9:1,1:0,a:1,2:0",
     "1a:1,1:0,2:1,2:0,39:1,1:0,4:1,2:0,4:1,2:0,2:1,3:0,3:1,1:0,1e:1,2:0,3:1,1:0,b:1,2:0,39:1",
     "1:0,4:1,5:0,1:1,2:0,4:1,1:0,14:1,2:0,16:1,6:0,1:1,1:0,3a:1,1:0,1:1,2:0,1:1,4:0,8:1,1:0",
     "7:1,3:0,a:1,2:0,1e:1,1:0,3b:1,1:0,1:1,1:0,c:1,1:0,9:1,1:0,28:1,1:0,3:1,1:0,37:1,1:0,1:1",
     "3:0,5:1,3:0,1:1,4:0,7:1,2:0,b:1,2:0,1d:1,1:0,3a:1,1:0,2:1,2:0,1:1,1:0,3:1,3:0,1:1,4:0",
     "7:1,2:0,b:1,2:0,1c:1,2:0,39:1,2:0,1:1,1:0,2:1,4:0,8:1,1:0,9:1,1:0,a:1,2:0,1d:1,1:0,48:1",
     "1:0,4:1,1:0,2:1,3:0,1:1,1:0,8:1,1:0,51:1,1:0,2:1,7:0,c:1,8:0,62:1,1:0,2:1,9:0,b:1,7:0",
     "49:1,2:0,1b:1,1:0,1:1,1:0,1:1,1:0,37:1,e:0,1:1,5:0,1:1,2:0,5:1,b:0,1:1,24:0,9:1,1:0",
     "66:1,4:0,1:1,6:0,1:1,2:0,2:1,2:0,19:1,2:0,4:1,3:0,10:1,4:0,d:1,1:0,2:1,2:0,6:1,1:0,f:1",
     "1:0,2bf:1,3:0,3b2:1,4:0,1c:1,3:0,1d:1,2:0,1e:1,2:0,40:1,2:0,1:1,7:0,8:1,1:0,2:1,b:0,9:1",
     "1:0,2d:1,3:0,1:1,1:0,75:1,2:0,22:1,1:0,76:1,3:0,4:1,2:0,9:1,1:0,6:1,3:0,db:1,2:0,2:1",
     "1:0,3a:1,1:0,1:1,7:0,1:1,1:0,1:1,1:0,2:1,8:0,6:1,a:0,2:1,1:0,30:1,2e:0,2:1,c:0,14:1,4:0",
     "30:1,a:0,4:1,3:0,26:1,9:0,c:1,2:0,20:1,4:0,2:1,6:0,38:1,1:0,1:1,2:0,3:1,1:0,1:1,5:0",
     "38:1,8:0,2:1,2:0,98:1,3:0,1:1,d:0,1:1,7:0,4:1,1:0,6:1,1:0,3:1,2:0,c6:1,40:0,20c:1,1:0",
     "c3:1,21:0,bfe:1,3:0,8d:1,1:0,60:1,20:0,22a:1,6:0,69:1,2:0,75d4:1,4:0,1:1,a:0,20:1,2:0",
     "50:1,2:0,110:1,1:0,3:1,1:0,4:1,1:0,19:1,2:0,5:1,1:0,97:1,2:0,1a:1,12:0,d:1,1:0,26:1,8:0",
     "19:1,b:0,1:1,1:0,2c:1,3:0,30:1,1:0,2:1,4:0,2:1,2:0,2:1,1:0,24:1,1:0,43:1,6:0,2:1,2:0",
     "2:1,2:0,c:1,1:0,8:1,1:0,2f:1,1:0,33:1,1:0,1:1,3:0,2:1,2:0,5:1,2:0,1:1,1:0,2a:1,2:0,8:1",
     "1:0,ee:1,1:0,2:1,1:0,4:1,1:0,4f30:1,1:0,2e1:1,10:0,10:1,10:0,16e:1,2:0,25d:1,1:0,e2:1",
     "1:0,95:1,5:0,686:1,3:0,1:1,2:0,5:1,4:0,28:1,3:0,4:1,1:0,a5:1,2:0,23d:1,4:0,41:1,5:0",
     "13d:1,2:0,4d:1,6:0,46:1,b:0,31:1,4:0,7b:1,1:0,36:1,f:0,29:1,1:0,2:1,2:0,a:1,3:0,31:1",
     "4:0,2:1,2:0,7:1,1:0,3d:1,3:0,24:1,5:0,1:1,8:0,3e:1,1:0,c:1,2:0,34:1,9:0,1:1,1:0,8:1,4:0",
     "2:1,1:0,5f:1,3:0,2:1,4:0,6:1,1:0,2:1,1:0,9d:1,1:0,3:1,8:0,15:1,2:0,39:1,2:0,1:1,1:0,1:1",
     "1:0,c:1,1:0,9:1,1:0,e:1,7:0,3:1,5:0,43:1,1:0,2:1,6:0,1:1,1:0,2:1,1:0,1:1,3:0,4:1,3:0",
     "1:1,1:0,e:1,2:0,55:1,8:0,2:1,3:0,1:1,1:0,17:1,1:0,51:1,1:0,2:1,6:0,1:1,1:0,2:1,1:0,1:1",
     "2:0,1:1,2:0,eb:1,1:0,2:1,4:0,6:1,2:0,1:1,2:0,1b:1,2:0,55:1,8:0,2:1,1:0,1:1,2:0,6a:1,1:0",
     "1:1,1:0,2:1,8:0,65:1,1:0,1:1,1:0,2:1,4:0,1:1,5:0,103:1,9:0,1:1,2:0,f5:1,1:0,a:1,4:0,4:1",
     "1:0,90:1,4:0,2:1,2:0,4:1,1:0,20:1,a:0,28:1,6:0,2:1,4:0,8:1,1:0,9:1,6:0,2:1,3:0,2e:1,d:0",
     "1:1,2:0,c6:1,1:0,1:1,3:0,1:1,1:0,c9:1,7:0,1:1,6:0,1:1,1:0,52:1,16:0,2:1,7:0,1:1,2:0,1:1",
     "2:0,7a:1,6:0,3:1,1:0,1:1,2:0,1:1,7:0,1:1,1:0,48:1,2:0,3:1,1:0,1:1,1:0,15b:1,2:0,b:1,2:0",
     "34:1,5:0,5:1,3:0,17:1,1:0,14e5:1,1:0,6:1,f:0,2cc8:1,c:0,3:1,3:0,9c0:1,5:0,3b:1,7:0",
     "418:1,1:0,3f:1,4:0,51:1,1:0,b:1,2:0,4cab:1,2:0,1261:1,2e:0,2:1,17:0,21e:1,5:0,3:1,6:0",
     "8:1,8:0,2:1,7:0,1e:1,4:0,94:1,3:0,7bb:1,37:0,4:1,32:0,8:1,1:0,e:1,1:0,16:1,5:0,1:1,f:0",
     "550:1,7:0,1:1,11:0,2:1,7:0,1:1,2:0,1:1,5:0,64:1,1:0,a0:1,7:0,177:1,1:0,3d:1,4:0,1fc:1",
     "4:0,fe:1,2:0,f3:1,1:0,2:1,1:0,7:1,2:0,5:1,1:0,1da:1,7:0,6d:1,7:0,c16d5:1,60:0,80:1,f0:0"]


/-- The table of the set. -/
def table : CodeTable Bool := CodeTable.read false (· == "1") setText

/-- Whether a code point extends the grapheme cluster before it. -/
def contains (cp : Nat) : Bool := table.get cp

end GraphemeExtend

end FeatureFlags
