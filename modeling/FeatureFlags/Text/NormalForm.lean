import FeatureFlags.Text.Decomposition

/-!
# Normalization form C

Canonically equivalent texts (`é` precomposed, or `e` and a combining acute accent) are
brought to one spelling, normalization form C, in three steps:

1. each character is replaced by its full canonical decomposition (`decompose`);
2. each run of non-starters (characters of nonzero combining class) is sorted by class,
   characters of equal class keeping their order (`reorder`);
3. from the left, each character is composed with the last starter before it when a pair
   of them has a composite and nothing blocks the two: a character between them of class
   zero, or of a class at least the character's own (`compose`).

* `NormalForm.nfc`: the normalization form C of a text;
* `NormalForm.isNfc`: whether a text is in that form.
-/

namespace FeatureFlags

namespace NormalForm

/-- The full canonical decomposition of a code point, `fuel` bounding the depth of one-step
    decompositions (three at most). -/
def decomposeWith : Nat → Nat → List Nat
  | 0, cp => [cp]
  | fuel + 1, cp =>
    match Decomposition.parts? cp with
    | some parts => parts.flatMap (decomposeWith fuel)
    | none => [cp]

/-- The full canonical decomposition of a code point. -/
def decompose (cp : Nat) : List Nat := decomposeWith 4 cp

/-- A run of non-starters sorted by combining class, equal classes keeping their order. -/
def sortRun (run : List Nat) : List Nat :=
  run.mergeSort fun a b => CombiningClass.of a ≤ CombiningClass.of b

/-- Sorts each run of non-starters, `run` holding the non-starters before the rest
    (last first). -/
def reorderFrom : List Nat → List Nat → List Nat
  | [], run => sortRun run.reverse
  | cp :: rest, run =>
    if CombiningClass.of cp == 0 then sortRun run.reverse ++ cp :: reorderFrom rest []
    else reorderFrom rest (cp :: run)

/-- The canonical ordering of decomposed code points. -/
def reorder (cps : List Nat) : List Nat := reorderFrom cps []

/-- The state of composition: the finished code points (last first), the last starter, the
    characters after it that did not compose with it (last first) and the class of the last
    of these. -/
structure Composer where
  done : List Nat := []
  starter : Option Nat := none
  marks : List Nat := []
  lastClass : Nat := 0

/-- Takes the next code point: composes it with the last starter when nothing blocks them
    and they have a composite; otherwise a starter begins a new run and any other character
    waits after the starter. -/
def Composer.push (s : Composer) (cp : Nat) : Composer :=
  let cls := CombiningClass.of cp
  let blocked := !s.marks.isEmpty && s.lastClass ≥ cls
  let composite := if blocked then none else s.starter.bind (Decomposition.composite? · cp)
  match composite with
  | some c => { s with starter := some c }
  | none =>
    if cls == 0 then
      { done := s.marks ++ s.starter.toList ++ s.done, starter := some cp, marks := [],
        lastClass := 0 }
    else { s with marks := cp :: s.marks, lastClass := cls }

/-- The code points of a finished composition. -/
def Composer.result (s : Composer) : List Nat :=
  (s.marks ++ s.starter.toList ++ s.done).reverse

/-- The canonical composition of decomposed, ordered code points. -/
def compose (cps : List Nat) : List Nat :=
  (cps.foldl Composer.push {}).result

/-- The normalization form C of a text. -/
def nfc (cs : List Char) : List Char :=
  (compose (reorder (cs.flatMap fun c => decompose c.toNat))).map Char.ofNat

/-- Whether a text is in normalization form C. -/
def isNfc (cs : List Char) : Bool := nfc cs == cs

end NormalForm

end FeatureFlags
