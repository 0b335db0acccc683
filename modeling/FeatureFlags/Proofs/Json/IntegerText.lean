import Mathlib
import FeatureFlags.Proofs.Json.NumberEnd

/-!
# Reading back the text of an integer

An integer is written in decimal, with a minus in front when it is negative, and its first
digit is a zero only for zero itself. The number reader takes the digits back, as long as the
value fits what it keeps as an integer: below `2^64` for a natural number, down to `-2^63` for a
negative one. So a 64-bit signed integer, written and read by the shape `integer`, is read back
as itself, in front of anything that may follow a value.

* `JsonReader.digitsWithin_digits`: a run of digits whose value fits is taken whole;
* `JsonReader.Takes.readNumber_toString`: the digits of a natural number are read as it;
* `JsonReader.Takes.readBy_ofInt`: a 64-bit integer is read back by the shape `integer`.
-/

namespace FeatureFlags

/-! ### The digits of a natural number -/

namespace Json

theorem toNat_digitChar {d : Nat} (h : d < 10) : (Nat.digitChar d).toNat = 48 + d := by
  interval_cases d <;> rfl

/-- The first digit of a positive number is no zero: it is the last quotient that is not zero.
    By induction on the fuel of the digit loop. -/
theorem head_toDigitsCore_ne_zero : ∀ (fuel n : Nat) (ds : List Char), 0 < n → n < fuel →
    ∃ c cs, Nat.toDigitsCore 10 fuel n ds = c :: cs ∧ c ≠ '0'
  | 0, n, _, _, hfuel => absurd hfuel (Nat.not_lt_zero n)
  | fuel + 1, n, ds, hn, hfuel => by
    unfold Nat.toDigitsCore
    dsimp only
    split_ifs with hq
    · -- The last digit: the number is below ten and not zero.
      have hlt : n < 10 := by omega
      refine ⟨_, ds, rfl, fun h => ?_⟩
      have := congrArg Char.toNat h
      rw [toNat_digitChar (Nat.mod_lt n (by decide)), Nat.mod_eq_of_lt hlt] at this
      exact absurd this (by simp; omega)
    · exact head_toDigitsCore_ne_zero fuel (n / 10) _ (by omega) (by omega)

theorem isDigit_of_mem_toDigits {n : Nat} {c : Char} (h : c ∈ Nat.toDigits 10 n) :
    48 ≤ c.toNat ∧ c.toNat ≤ 57 := by
  have hd := Nat.isDigit_of_mem_toDigits (by decide) (by decide) h
  simp only [Char.isDigit, Bool.and_eq_true, decide_eq_true_eq] at hd
  exact ⟨Char.le_def.1 hd.1, Char.le_def.1 hd.2⟩

/-- A natural number is written as its digits, one byte each. -/
theorem encode_toString (n : Nat) :
    Utf8.encode (toString n) = (Nat.toDigits 10 n).map (·.toNat.toUInt8) := by
  rw [Nat.toString_eq_repr, Nat.repr]
  exact Utf8.encode_ofList_of_ascii fun c hc => by have := isDigit_of_mem_toDigits hc; omega

end Json

namespace JsonReader

/-- The value of digits after the value `acc` of those before them. -/
def digitsValue (bytes : List UInt8) (acc : Nat) : Nat :=
  bytes.foldl (fun a b => a * 10 + digitValue b) acc

theorem le_digitsValue (bytes : List UInt8) (acc : Nat) : acc ≤ digitsValue bytes acc := by
  induction bytes generalizing acc with
  | nil => exact Nat.le_refl acc
  | cons b bytes ih =>
    have := ih (acc * 10 + digitValue b)
    simp only [digitsValue, List.foldl_cons] at this ⊢
    omega

theorem overflows_eq_false {acc d limit : Nat} (hd : d ≤ 9) (h : acc * 10 + d ≤ limit) :
    overflows acc d limit = false := by
  simp only [overflows, Bool.and_eq_false_iff, Bool.or_eq_false_iff, decide_eq_false_iff_not]
  omega

/-- A run of digits whose value fits is taken whole, up to the byte after it. -/
theorem digitsWithin_digits {limit : Nat} {tail : List UInt8}
    (hT : ∀ b ∈ tail.head?, isDigit b = false) :
    ∀ (bytes : List UInt8) (acc count : Nat), (∀ b ∈ bytes, isDigit b = true) →
      digitsValue bytes acc ≤ limit →
      digitsWithin limit (bytes ++ tail) acc count =
        (digitsValue bytes acc, count + bytes.length, false)
  | [], acc, count, _, _ => by
    rw [digitsWithin_append hT limit [] acc count]
    rfl
  | b :: bytes, acc, count, hdigits, hfit => by
    have hb := hdigits b List.mem_cons_self
    have hnext : acc * 10 + digitValue b ≤ limit :=
      le_trans (le_digitsValue bytes _) hfit
    rw [List.cons_append, digitsWithin, if_pos hb,
      if_neg (by rw [overflows_eq_false (digitValue_le hb) hnext]; decide),
      digitsWithin_digits hT bytes _ _ (fun b' hb' => hdigits b' (List.mem_cons_of_mem b hb')) hfit]
    simp only [digitsValue, List.foldl_cons, List.length_cons]
    congr 2
    omega

/-- Digit characters, one byte each, have the value of the characters. -/
theorem digitsValue_map_toUInt8 :
    ∀ (cs : List Char) (acc : Nat), (∀ c ∈ cs, 48 ≤ c.toNat ∧ c.toNat ≤ 57) →
      digitsValue (cs.map (·.toNat.toUInt8)) acc = Nat.ofDigitChars 10 cs acc
  | [], _, _ => rfl
  | c :: cs, acc, h => by
    have hc := h c List.mem_cons_self
    have ih := digitsValue_map_toUInt8 cs (acc * 10 + (c.toNat - 48))
      fun c' hc' => h c' (List.mem_cons_of_mem c hc')
    have hbyte : digitValue c.toNat.toUInt8 = c.toNat - 48 := by
      simp only [digitValue, Utf8.toNat_toUInt8_of_lt (show c.toNat < 256 by omega)]
    simp only [digitsValue, Nat.ofDigitChars, List.map_cons, List.foldl_cons] at ih ⊢
    rw [hbyte, ih, Nat.mul_comm acc 10]
    rfl

/-- The digits of a number have that value. -/
theorem digitsValue_toDigits (n : Nat) :
    digitsValue ((Nat.toDigits 10 n).map (·.toNat.toUInt8)) 0 = n := by
  rw [digitsValue_map_toUInt8 _ 0 fun c hc => Json.isDigit_of_mem_toDigits hc]
  exact Nat.ofDigitChars_ten_toDigits

/-- The byte of a digit character is a digit. -/
theorem isDigit_toUInt8 {c : Char} (h : 48 ≤ c.toNat ∧ c.toNat ≤ 57) :
    isDigit c.toNat.toUInt8 = true := by
  simp only [isDigit, Bool.and_eq_true, decide_eq_true_eq, UInt8.le_iff_toNat_le,
    Utf8.toNat_toUInt8_of_lt (show c.toNat < 256 by omega)]
  simp only [UInt8.reduceToNat]
  omega

theorem isBlank_of_isDigit {b : UInt8} (h : isDigit b = true) : Cursor.isBlank b = false := by
  simp only [isDigit, Bool.and_eq_true, decide_eq_true_eq, UInt8.le_iff_toNat_le] at h
  simp only [Cursor.isBlank, Bool.or_eq_false_iff, decide_eq_false_iff_not, ← UInt8.toNat_inj]
  simp only [UInt8.reduceToNat] at h ⊢
  omega

/-! ### Reading the digits back -/

section Integers

variable {tail : List UInt8} (hT : AfterValue tail) (d : Nat)
include hT

/-- After the digits, a byte that may follow a value ends the number: a natural number is kept
    as one. -/
theorem Takes.readAfterInteger_unsigned (n : Nat) :
    Takes (readAfterInteger true n) [] (.unsigned n) tail d := by
  unfold readAfterInteger
  refine Takes.peek_bind rfl ?_
  rw [List.nil_append]
  split
  all_goals try (rename_i h; exact absurd (hT _ h) (by decide))
  exact Takes.pure _ tail d

/-- After a minus and the digits, the number is kept as a negative integer when it is not zero
    and reaches at most `-2^63`. -/
theorem Takes.readAfterInteger_negative {n : Nat} (h₀ : 0 < n) (hn : n ≤ 2 ^ 63) :
    Takes (readAfterInteger false n) [] (.negative (-(n : Int))) tail d := by
  unfold readAfterInteger
  refine Takes.peek_bind rfl ?_
  rw [List.nil_append]
  split
  all_goals try (rename_i h; exact absurd (hT _ h) (by decide))
  rw [if_neg (by decide), if_neg (by omega), if_pos (by simpa using hn)]
  exact Takes.pure _ tail d

/-- The digits of a natural number that the reader keeps are read as it, and what follows them
    decides the rest. -/
theorem Takes.readNumber_toString (positive : Bool) {n : Nat} (hn : n ≤ 2 ^ 63) {v : JsonNumber}
    (hafter : Takes (readAfterInteger positive n) [] v tail d) :
    Takes (readNumber positive) (Utf8.encode (toString n)) v tail d := by
  rw [Json.encode_toString]
  unfold readNumber
  rcases Nat.eq_zero_or_pos n with rfl | hpos
  · -- Zero is its one digit, and no digit may follow it.
    rw [show (Nat.toDigits 10 0).map (·.toNat.toUInt8) = [48] by decide]
    refine Takes.next_bind (Takes.peek_bind rfl ?_)
    rw [List.nil_append]
    cases hhead : tail.head? with
    | none => exact hafter
    | some b =>
      dsimp only
      rw [if_neg (by rw [hT.not_isDigit b hhead]; decide)]
      exact hafter
  · obtain ⟨c, cs, hdigits, hc⟩ := Json.head_toDigitsCore_ne_zero (n + 1) n [] hpos (by omega)
    have hchars : ∀ c' ∈ Nat.toDigits 10 n, 48 ≤ c'.toNat ∧ c'.toNat ≤ 57 :=
      fun _ h => Json.isDigit_of_mem_toDigits h
    rw [show Nat.toDigits 10 n = c :: cs from hdigits] at hchars ⊢
    have hcd := hchars c List.mem_cons_self
    have hbyte : c.toNat.toUInt8.toNat = c.toNat := Utf8.toNat_toUInt8_of_lt (by omega)
    have hfirst := isDigit_toUInt8 hcd
    rw [List.map_cons]
    refine Takes.next_bind ?_
    split
    · contradiction
    · -- The first digit is no zero.
      rename_i h48
      have h48' := congrArg UInt8.toNat (Option.some.inj h48)
      rw [hbyte] at h48'
      exact absurd (Char.toNat_inj.1 (h48'.trans (by decide))) hc
    rename_i b' _ hb
    cases hb
    rw [if_pos hfirst]
    -- The other digits have the value of the number after the first.
    have hval : digitsValue (cs.map (·.toNat.toUInt8)) (digitValue c.toNat.toUInt8) = n := by
      have := digitsValue_toDigits n
      rw [show Nat.toDigits 10 n = c :: cs from hdigits, List.map_cons] at this
      simpa [digitsValue] using this
    have hrest : ∀ b ∈ cs.map (·.toNat.toUInt8), isDigit b = true := by
      intro b hb
      obtain ⟨c', hc', rfl⟩ := List.mem_map.1 hb
      exact isDigit_toUInt8 (hchars c' (List.mem_cons_of_mem c hc'))
    have hfit : n ≤ maxSignificand := le_trans hn (by decide)
    refine Takes.get_bind fun cur hcur => ?_
    rw [hcur, digitsWithin_digits hT.not_isDigit _ _ _ hrest (hval ▸ hfit), hval, Nat.zero_add]
    dsimp only
    refine (Takes.eatN _ tail d).bind_nil ?_
    rw [if_neg (by decide)]
    exact hafter

/-- A 64-bit integer is read back by the shape `integer`. -/
theorem Takes.readBy_ofInt {i : Int} (hlo : -2 ^ 63 ≤ i) (hhi : i < 2 ^ 63) (fuel : Nat) :
    Takes (JsonShape.readBy (fuel + 1) .integer) (Utf8.encode (Json.render (Json.ofInt i)))
      (Json.ofInt i) tail d := by
  rw [JsonShape.readBy]
  refine Takes.placed ?_
  by_cases hneg : i < 0
  · -- A minus, then the digits of the magnitude.
    have hrender : Json.render (Json.ofInt i) = "-" ++ toString i.natAbs := by
      simp only [Json.ofInt, if_pos hneg, Json.render, Json.numberText]
      cases i with
      | ofNat k => exact absurd hneg (by simp)
      | negSucc m => rfl
    have hmag : 0 < i.natAbs ∧ i.natAbs ≤ 2 ^ 63 := by omega
    have hvalue : Json.ofInt i = .number (.negative (-(i.natAbs : Int))) := by
      simp only [Json.ofInt, if_pos hneg]
      congr 2
      omega
    rw [hrender, Utf8.encode_append, hvalue, show Utf8.encode "-" = [45] by decide,
      List.singleton_append]
    refine Takes.peekAfterBlanks_bind rfl (by decide) ?_
    dsimp only
    rw [if_pos rfl]
    refine (Takes.eat 45 _ d).bind (Takes.bind_nil (Takes.readNumber_toString hT d false hmag.2
      (Takes.readAfterInteger_negative hT d hmag.1 hmag.2)) ?_)
    exact Takes.pure _ tail d
  · -- The digits of the number, the first of them a digit.
    have hnat : Json.ofInt i = .number (.unsigned i.toNat) := by
      simp only [Json.ofInt, if_neg hneg]
    obtain ⟨c, cs, hdigits⟩ := List.exists_cons_of_ne_nil (Nat.toDigits_ne_nil (n := i.toNat) (b := 10))
    have hfirst := isDigit_toUInt8 (Json.isDigit_of_mem_toDigits (hdigits ▸ List.mem_cons_self))
    have hbytes : Utf8.encode (toString i.toNat) = c.toNat.toUInt8 :: cs.map (·.toNat.toUInt8) := by
      rw [Json.encode_toString, hdigits, List.map_cons]
    have hread := Takes.readNumber_toString hT d true (n := i.toNat) (by omega)
      (Takes.readAfterInteger_unsigned hT d _)
    rw [hbytes] at hread
    rw [hnat]
    simp only [Json.render, Json.numberText]
    rw [hbytes]
    refine Takes.peekAfterBlanks_bind rfl (isBlank_of_isDigit hfirst) ?_
    dsimp only
    rw [if_neg (fun h => by rw [h] at hfirst; exact absurd hfirst (by decide)), if_pos hfirst]
    refine Takes.bind_nil hread ?_
    rw [JsonShape.integerOf, if_pos (by simp only [Nat.pow_eq]; omega)]
    exact Takes.pure _ tail d

end Integers

end JsonReader

end FeatureFlags
