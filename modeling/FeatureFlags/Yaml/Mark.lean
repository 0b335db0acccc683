/-!
# Positions and syntax errors in YAML text

A `Mark` is a position in YAML text: the count of bytes before it in the text's UTF-8
form, its line and its column (in characters), both from zero. A `SyntaxError` is what stops the
reading of a text: a problem at a mark, and possibly the construct it was met in, with
the mark where that construct began.

Marks are written from one (`line 2 column 5`). A mark at the very start is not written,
and neither is a context mark equal to the problem's mark. An error found before reading
began (a forbidden character) has no mark but the byte offset of its cause.
-/

namespace FeatureFlags

namespace Yaml

/-- A position in YAML text. -/
structure Mark where
  index : Nat := 0
  line : Nat := 0
  column : Nat := 0
  deriving Repr, DecidableEq, Inhabited

namespace Mark

/-- Whether a mark is at the first column of the first line. -/
def isStart (m : Mark) : Bool := m.line == 0 && m.column == 0

/-- The text of a mark, counting lines and columns from one. -/
def text (m : Mark) : String := s!"line {m.line + 1} column {m.column + 1}"

/-- Whether two marks are at one line and column. -/
def samePlace (a b : Mark) : Bool := a.line == b.line && a.column == b.column

end Mark

/-- Why a YAML text cannot be read. -/
structure SyntaxError where
  problem : String
  mark : Mark := {}
  /-- The byte offset of the cause, for an error found before reading began. -/
  offset : Nat := 0
  /-- The construct the problem was met in, and where it began. -/
  context : Option (String × Mark) := none
  deriving Repr, Inhabited

/-- The text of a syntax error. -/
def SyntaxError.message (e : SyntaxError) : String :=
  let head :=
    if !e.mark.isStart then s!"{e.problem} at {e.mark.text}"
    else if e.offset != 0 then s!"{e.problem} at position {e.offset}"
    else e.problem
  match e.context with
  | none => head
  | some (context, mark) =>
    if !mark.isStart && !mark.samePlace e.mark then s!"{head}, {context} at {mark.text}"
    else s!"{head}, {context}"

end Yaml

end FeatureFlags
