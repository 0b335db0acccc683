import Mathlib
import FeatureFlags.Flag.Entity
import FeatureFlags.Proofs.Number.Finite

/-!
# Numbers the JSON reader returns

The reader never returns a NaN or an infinite double. An integer is kept below `2^64` and
rounds to a finite double; a decimal is scaled in doubles, and refused as out of range
where that would overflow. So a double read by the shape `real` is finite, and so is the
update time of every push event read (`FlagEvent.isFinite_updatedAt`).

Readers are specified by Hoare triples over their monad: `⦃⌜True⌝⦄ r ⦃⇓? a => ⌜P a⌝⦄` says
that whatever `r` returns, from any cursor, satisfies `P`; its failures are left free.
`mvcgen` reduces a reader's body to the facts its values need, given the triples of the
readers it calls, and `JsonReader.ok_of_triple` reads a triple back as a fact about a run.

* Numbers: every number read rounds to a finite double (`JsonReader.readNumber_spec`).
* Shapes: a double read by shape is finite, a value of the wrong kind is refused, and a
  record holds only values read by the shapes of its fields, whether it is written as an
  object or as an array (`JsonShape.readBy_record_spec`).
-/

open Std.Do

set_option mvcgen.warning false

namespace FeatureFlags

namespace JsonReader

/-! ## Triples and runs -/

/-- What a reader's triple promises of its values holds of every value it returns when run. -/
theorem ok_of_triple {α : Type} {r : JsonReader α} {P : α → Prop}
    (h : ⦃⌜True⌝⦄ r ⦃⇓? a => ⌜P a⌝⦄) (c : Cursor) (a : α)
    (ha : (r.run.run c).1 = .ok a) : P a := by
  have hwp := h c True.intro
  simp only [WP.wp, PredTrans.apply_pushExcept, PredTrans.apply_pushArg] at hwp
  rcases hrun : StateT.run (ExceptT.run r) c with ⟨x, c'⟩
  rw [hrun] at ha hwp
  cases ha
  exact hwp

/-- A reader promises nothing of what it returns. -/
theorem triple_true {α : Type} (r : JsonReader α) : ⦃⌜True⌝⦄ r ⦃⇓? _ => ⌜True⌝⦄ := by
  intro c _
  simp only [WP.wp, PredTrans.apply_pushExcept, PredTrans.apply_pushArg]
  rcases StateT.run (ExceptT.run r) c with ⟨x, c'⟩
  cases x <;> trivial

/-! ## Digits -/

/-- A significand kept by the reader is far below the largest power of two a double holds. -/
theorem log2_lt_of_le_maxSignificand {n : Nat} (h : n ≤ maxSignificand) : n.log2 < 1023 := by
  rcases Nat.eq_zero_or_pos n with rfl | hn
  · decide
  · have : n.log2 < 64 :=
      (Nat.log2_lt (Nat.pos_iff_ne_zero.1 hn)).2 (by simp [maxSignificand] at h; omega)
    omega

theorem digitValue_le {b : UInt8} (h : isDigit b) : digitValue b ≤ 9 := by
  simp only [isDigit, Bool.and_eq_true, decide_eq_true_eq] at h
  simp only [digitValue]
  have := UInt8.le_iff_toNat_le.1 h.2
  simp at this
  omega

/-- Digits are taken only while the value stays within the limit. -/
theorem digitsWithin_le {limit : Nat} {acc : Nat} (bs : List UInt8) (count : Nat)
    (h : acc ≤ limit) : (digitsWithin limit bs acc count).1 ≤ limit := by
  induction bs generalizing acc count with
  | nil => exact h
  | cons b rest ih =>
    unfold digitsWithin
    split
    · rename_i hd
      split
      · exact h
      · rename_i hov
        apply ih
        have := digitValue_le hd
        simp only [overflows, Bool.and_eq_true, Bool.or_eq_true, decide_eq_true_eq, not_and,
          not_or, not_lt, ge_iff_le] at hov
        by_cases hlo : limit / 10 ≤ acc
        · have := hov hlo
          omega
        · omega
    · exact h

/-! ## Numbers -/

@[spec]
theorem fromParts_spec {positive : Bool} {significand : Nat} {exponent : Int}
    (h : significand ≤ maxSignificand) :
    ⦃⌜True⌝⦄ fromParts positive significand exponent ⦃⇓? f => ⌜f.isFinite⌝⦄ := by
  mvcgen [fromParts, failHere]
  rename_i hf _
  exact Float.isFinite_scaleDecimal (log2_lt_of_le_maxSignificand h) hf

@[spec]
theorem exponentOverflow_spec (positive zeroSignificand positiveExp : Bool) :
    ⦃⌜True⌝⦄ exponentOverflow positive zeroSignificand positiveExp ⦃⇓? f => ⌜f.isFinite⌝⦄ := by
  mvcgen [exponentOverflow, failHere, eatN]
  cases positive <;> decide

@[spec]
theorem readExponent_spec {positive : Bool} {significand : Nat} {start : Int}
    (h : significand ≤ maxSignificand) :
    ⦃⌜True⌝⦄ readExponent positive significand start ⦃⇓? f => ⌜f.isFinite⌝⦄ := by
  mvcgen [readExponent, failHere, eat, peek, next, eatN]

@[spec]
theorem afterOverflow_spec {positive : Bool} {significand : Nat} {exponent : Int}
    (h : significand ≤ maxSignificand) :
    ⦃⌜True⌝⦄ afterOverflow positive significand exponent ⦃⇓? f => ⌜f.isFinite⌝⦄ := by
  mvcgen [afterOverflow, eat, peek, eatN]

@[spec]
theorem readFraction_spec {positive : Bool} {significand : Nat} {before : Int}
    (h : significand ≤ maxSignificand) :
    ⦃⌜True⌝⦄ readFraction positive significand before ⦃⇓? f => ⌜f.isFinite⌝⦄ := by
  mvcgen [readFraction, failHere, failAhead, eat, peek, eatN]
  all_goals exact digitsWithin_le _ _ h

@[spec]
theorem readLongInteger_spec {positive : Bool} {significand : Nat}
    (h : significand ≤ maxSignificand) :
    ⦃⌜True⌝⦄ readLongInteger positive significand ⦃⇓? f => ⌜f.isFinite⌝⦄ := by
  mvcgen [readLongInteger, peek, eatN]

/-- A number read after its integer part: an integer that fits is kept as one, and every
    double is finite. -/
@[spec]
theorem readAfterInteger_spec {positive : Bool} {significand : Nat}
    (h : significand ≤ maxSignificand) :
    ⦃⌜True⌝⦄ readAfterInteger positive significand ⦃⇓? n => ⌜n.toFloat.isFinite⌝⦄ := by
  mvcgen [readAfterInteger, peek]
  all_goals
    simp only [JsonNumber.toFloat, Int.natAbs_neg, Int.natAbs_natCast]
    exact Float.isFinite_ofRatio_one _ (log2_lt_of_le_maxSignificand h)

/-- Every number read rounds to a finite double. -/
@[spec]
theorem readNumber_spec (positive : Bool) :
    ⦃⌜True⌝⦄ readNumber positive ⦃⇓? n => ⌜n.toFloat.isFinite⌝⦄ := by
  mvcgen [readNumber, failHere, failAhead, peek, next, eat, eatN]
  -- the first digit is at most 9, and the digits after it stay within the limit
  all_goals exact digitsWithin_le _ _ ((digitValue_le ‹_›).trans (by decide))

end JsonReader

namespace JsonShape

open JsonReader

/-! ## Values by shape -/

/-- A value of the wrong kind is refused: nothing is returned. -/
theorem refuse_spec {α : Type} (shape : JsonShape) :
    ⦃⌜True⌝⦄ (refuse shape : JsonReader α) ⦃⇓? _ => ⌜False⌝⦄ := by
  have hstring := triple_true readString
  have hull := triple_true (expectLiteral ull)
  have hrue := triple_true (expectLiteral rue)
  have halse := triple_true (expectLiteral alse)
  mvcgen [refuse, refuse.refuseNumber, failData, failAhead, peek, eat, hstring, hull, hrue, halse]

/-- A double read by shape is a finite number. -/
theorem readBy_real_spec (fuel : Nat) :
    ⦃⌜True⌝⦄ readBy fuel .real ⦃⇓? j => ⌜∃ f : Float, j = .number (.float f) ∧ f.isFinite⌝⦄ := by
  cases fuel with
  | zero => mvcgen [readBy, failHere]
  | succ fuel =>
    simp only [readBy]
    have hrefuse := refuse_spec (α := Json) .real
    mvcgen [placed, place, peekAfterBlanks, peek, failAhead, eat, hrefuse]
    · exact ⟨_, rfl, ‹_›⟩
    · exact ⟨_, rfl, ‹_›⟩
    · exact fun _ h => h.elim

theorem mem_of_fieldShape {fields : List (String × Bool × JsonShape)} {key : String}
    {shape : JsonShape} (h : fieldShape? fields key = some shape) :
    shape ∈ fields.map (·.2.2) := by
  obtain ⟨f, hf, rfl⟩ := Option.map_eq_some_iff.1 h
  exact List.mem_map.2 ⟨f, List.mem_of_find?_eq_some hf, rfl⟩

/-- The fields of a record in declaration order are among those read. -/
theorem mem_of_mem_inOrder {present : List (String × Json)}
    {fields : List (String × Bool × JsonShape)} {p : String × Json}
    (h : p ∈ inOrder present fields) : p ∈ present := by
  obtain ⟨f, -, hf⟩ := List.mem_filterMap.1 h
  obtain ⟨v, hv, rfl⟩ := Option.map_eq_some_iff.1 hf
  obtain ⟨l₁, l₂, rfl, -⟩ := List.lookup_eq_some_iff.1 hv
  simp

section Fields

variable {Q : Json → Prop} {name : String} {fields : List (String × Bool × JsonShape)}

/-- A record written as an object holds only values read by the shapes of its fields. -/
theorem readFields_spec
    (hQ : ∀ fuel shape, ⦃⌜shape ∈ fields.map (·.2.2)⌝⦄ readBy fuel shape ⦃⇓? j => ⌜Q j⌝⦄)
    (fuel : Nat) :
    ∀ first acc, ⦃⌜∀ p ∈ acc, Q p.2⌝⦄ readFields fuel name fields first acc
      ⦃⇓? l => ⌜∀ p ∈ l, Q p.2⌝⦄ := by
  induction fuel with
  | zero => intro first acc; mvcgen [readFields, failHere]
  | succ fuel ih =>
    intro first acc
    have hread := hQ fuel
    have hnext : ∀ b, ⦃⌜True⌝⦄ hasNextKey b ⦃⇓? _ => ⌜True⌝⦄ := fun b => triple_true _
    have hkey := triple_true readKey
    have hcolon := triple_true readColon
    have hskip := triple_true skipValue
    simp only [readFields]
    mvcgen [failData, hread, hnext, hkey, hcolon, hskip, ih]
    · -- the shape of a named field is one of the record's
      exact mem_of_fieldShape ‹_›
    · -- the value read joins the ones before it
      exact List.forall_mem_cons.2 ⟨‹_›, ‹_›⟩
    · -- the values kept, in declaration order, are among those read
      exact fun p hp => ‹∀ p ∈ acc, Q p.2› p (mem_of_mem_inOrder hp)

/-- A record written as an array holds only values read by the shapes of its fields. -/
theorem readFieldsInOrder_spec
    (hQ : ∀ fuel shape, ⦃⌜shape ∈ fields.map (·.2.2)⌝⦄ readBy fuel shape ⦃⇓? j => ⌜Q j⌝⦄)
    (all : List (String × Bool × JsonShape)) (fuel : Nat) :
    ∀ rest index first acc, (∀ f ∈ rest, f ∈ fields) →
      ⦃⌜∀ p ∈ acc, Q p.2⌝⦄ readFieldsInOrder fuel name all rest index first acc
        ⦃⇓? l => ⌜∀ p ∈ l, Q p.2⌝⦄ := by
  induction fuel with
  | zero => intro rest index first acc _; mvcgen [readFieldsInOrder, failHere]
  | succ fuel ih =>
    intro rest index first acc hrest
    cases rest with
    | nil =>
      simp only [readFieldsInOrder]
      mvcgen
      exact fun p hp => ‹∀ p ∈ acc, Q p.2› p (List.mem_reverse.1 hp)
    | cons field rest =>
      obtain ⟨key, defaulted, shape⟩ := field
      have hread := hQ fuel shape
      have hnext : ∀ b, ⦃⌜True⌝⦄ hasNextItem b ⦃⇓? _ => ⌜True⌝⦄ := fun b => triple_true _
      have hrest' : ∀ f ∈ rest, f ∈ fields := fun f hf => hrest f (List.mem_cons_of_mem _ hf)
      have ih' := fun index first acc => ih rest index first acc hrest'
      simp only [readFieldsInOrder]
      mvcgen [failData, hread, hnext, ih']
      · exact List.mem_map.2 ⟨_, hrest _ List.mem_cons_self, rfl⟩
      · exact List.forall_mem_cons.2 ⟨‹_›, ‹_›⟩

/-- A record read by shape is an object that holds only values read by the shapes of its
    fields. -/
theorem readBy_record_spec
    (hQ : ∀ fuel shape, ⦃⌜shape ∈ fields.map (·.2.2)⌝⦄ readBy fuel shape ⦃⇓? j => ⌜Q j⌝⦄)
    (fuel : Nat) :
    ⦃⌜True⌝⦄ readBy fuel (.record name fields)
      ⦃⇓? j => ⌜∃ l, j = .object l ∧ ∀ p ∈ l, Q p.2⌝⦄ := by
  cases fuel with
  | zero => mvcgen [readBy, failHere]
  | succ fuel =>
    have hobject := @readFields_spec Q name fields hQ fuel true []
    have harray :=
      @readFieldsInOrder_spec Q name fields hQ fields fuel fields 0 true [] (fun _ h => h)
    have hrefuse := refuse_spec (α := Json) (.record name fields)
    have hlist := triple_true closeList
    have hclose := triple_true closeObject
    simp only [readBy]
    mvcgen [placed, place, peekAfterBlanks, peek, failAhead, within, attempt, enter, leave, eat,
      hobject, harray, hrefuse, hlist, hclose]
    -- written as an array
    · exact fun _ h => absurd h (List.not_mem_nil)
    · exact ⟨_, rfl, ‹_›⟩
    -- written as an object
    · exact fun _ h => absurd h (List.not_mem_nil)
    · exact ⟨_, rfl, ‹_›⟩
    -- anything else is refused
    · exact fun _ h => h.elim

end Fields

/-- Reading a whole text by a shape returns only values its reader promises. -/
theorem parseBytes_spec {P : Json → Prop} {shape : JsonShape}
    (h : ∀ fuel, ⦃⌜True⌝⦄ readBy fuel shape ⦃⇓? j => ⌜P j⌝⦄) {bytes : List UInt8} {j : Json}
    (hj : parseBytes shape bytes = .ok j) : P j := by
  have hread := h (8 * bytes.length + 16)
  refine ok_of_triple ?_ (Cursor.start bytes) j hj
  mvcgen [peekAfterBlanks, peek, failAhead, hread]

end JsonShape

/-! ## Push events -/

/-- The update time of every push event read is finite. -/
theorem FlagEvent.isFinite_updatedAt {text : String} {event : FlagEvent}
    (h : FlagEvent.parse text = .ok event) : event.updatedAt.isFinite := by
  unfold FlagEvent.parse at h
  rcases hj : JsonShape.parse FlagEvent.shape text with e | j <;>
    rw [hj] at h <;> simp only [Except.map, Except.ok.injEq, reduceCtorEq] at h
  subst h
  have hreal : ∀ fuel shape, ⦃⌜shape ∈ [("updated_at", false, JsonShape.real)].map (·.2.2)⌝⦄
      JsonShape.readBy fuel shape
      ⦃⇓? j => ⌜∃ f : Float, j = .number (.float f) ∧ f.isFinite⌝⦄ := by
    intro fuel shape s hshape
    simp only [List.map_cons, List.map_nil, List.mem_singleton] at hshape
    subst hshape
    exact JsonShape.readBy_real_spec fuel s trivial
  -- the event is an object whose fields are all finite doubles
  obtain ⟨l, rfl, hl⟩ := JsonShape.parseBytes_spec (JsonShape.readBy_record_spec hreal) hj
  simp only [FlagEvent.ofJson, Json.get?]
  cases hfind : List.find? (fun x => x.1 == "updated_at") l with
  | none => decide
  | some p =>
    obtain ⟨f, hf, hfin⟩ := hl p (List.mem_of_find?_eq_some hfind)
    simp [Json.getFloat?, hf, JsonNumber.toFloat, hfin]

end FeatureFlags
