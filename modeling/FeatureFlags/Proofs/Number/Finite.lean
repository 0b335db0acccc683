import Mathlib
import FeatureFlags.Number.Decimal

/-!
# Finite doubles

The JSON reader turns a number into a double by rounding an integer (`Float.ofRatio`)
and by scaling it with powers of ten (`Float.scaleDecimal?`). Neither ever gives a NaN,
and an infinity only where the reader refuses the number, so every double the reader
returns is finite (`Float.isFinite_scaleDecimal`).

The arguments read the logical model of `Float`: its bits, their unpacked form and the
rounding of `roundWithAccuracy`.

* A pattern is finite exactly when its exponent field is not all ones; a finite number
  of the format stands at an exponent of at most 971.
* Rounding never gives a NaN, and raises an exponent only as far as the leading bit of
  the exact value calls for. So a product that does not overflow is finite, and so is a
  quotient by a double of magnitude at least 2 (`Float.isFinite_div`).
* An integer whose leading bit stands below `2^1023`, and every power of ten up to
  `10^308`, rounds to a finite double.
* Between doubles that are not NaN, "not at most" is "strictly above"
  (`Float.not_le_iff_lt`).
-/

open Float.Model UnpackedFloat

namespace FeatureFlags

namespace Binary64

/-! ## The format -/

@[simp] theorem binary64_exponentBits : Format.binary64.exponentBits = 11 := rfl

@[simp] theorem binary64_exponentBias : Format.binary64.exponentBias = 1023 := rfl

/-! ## Reading the bits -/

section Bits

variable {b : BitVec Format.binary64.numBits}

theorem neg_one_exponent_iff :
    @unpackExponent .binary64 b = -1#_ ↔ (@unpackExponent .binary64 b).toNat = 2047 := by
  rw [← BitVec.toNat_inj]; simp

theorem zero_exponent_iff :
    @unpackExponent .binary64 b = 0#_ ↔ (@unpackExponent .binary64 b).toNat = 0 := by
  rw [← BitVec.toNat_inj]; simp

theorem zero_mantissa_iff :
    @unpackMantissa .binary64 b = 0#_ ↔ (@unpackMantissa .binary64 b).toNat = 0 := by
  rw [← BitVec.toNat_inj]; simp

/-- A pattern is finite exactly when its exponent field is not all ones. -/
theorem isFinite_unpack_iff :
    (UnpackedFloat.unpack .binary64 b).isFinite = true ↔
      (@unpackExponent .binary64 b).toNat ≠ 2047 := by
  rw [ne_eq, ← neg_one_exponent_iff]
  unfold UnpackedFloat.unpack
  by_cases h : @unpackExponent .binary64 b = -1#_
  · by_cases hM : @unpackMantissa .binary64 b = 0#_ <;>
      simp [h, hM, UnpackedFloat.isFinite]
  · simp only [h, if_false]; split
    · split <;> simp [UnpackedFloat.isFinite]
    · simp [UnpackedFloat.isFinite]

/-- A pattern is a NaN exactly when its exponent field is all ones and its fraction is not
    zero. -/
theorem isNaN_unpack_iff :
    (UnpackedFloat.unpack .binary64 b).isNaN = true ↔ (@unpackExponent .binary64 b).toNat = 2047 ∧
      (@unpackMantissa .binary64 b).toNat ≠ 0 := by
  rw [ne_eq, ← neg_one_exponent_iff, ← zero_mantissa_iff]
  unfold UnpackedFloat.unpack
  by_cases h : @unpackExponent .binary64 b = -1#_
  · by_cases hM : @unpackMantissa .binary64 b = 0#_ <;>
      simp [h, hM, UnpackedFloat.isNaN]
  · simp only [h, if_false]; split
    · split <;> simp_all [UnpackedFloat.isNaN]
    · simp_all [UnpackedFloat.isNaN]

theorem isFinite_eq_not_isNaN_and_not_isInf (u : UnpackedFloat) :
    u.isFinite = (!u.isNaN && !u.isInf) := by
  cases u <;> rfl

/-- The two shapes of a finite pattern: a subnormal, below `2^52` at the least exponent,
    or a normal one with 53 significant bits at its biased exponent less 1075. -/
theorem unpack_eq_finite {s : Sign} {m : Nat} {e : Int} {hm : 0 < m}
    (h : UnpackedFloat.unpack .binary64 b = .finite s m e hm) :
    ((@unpackExponent .binary64 b).toNat = 0 ∧ m < 2^52 ∧ e = -1074) ∨
    ((@unpackExponent .binary64 b).toNat ≠ 0 ∧
      (@unpackExponent .binary64 b).toNat < 2047 ∧ m.log2 = 52 ∧
      e = (@unpackExponent .binary64 b).toNat - 1075) := by
  have hM := (@unpackMantissa .binary64 b).isLt
  have hE := (@unpackExponent .binary64 b).isLt
  unfold UnpackedFloat.unpack at h
  dsimp only at h
  split at h
  · split at h <;> cases h
  · split at h
    · split at h
      · cases h
      · cases h
        left
        have h₀ := zero_exponent_iff.1 ‹_›
        refine ⟨h₀, hM, ?_⟩
        simp [h₀, Format.exponentBias]
    · cases h
      right
      have hm : (1#1 ++ @unpackMantissa .binary64 b).toNat =
          2^52 + (@unpackMantissa .binary64 b).toNat := by
        simp only [BitVec.toNat_append]
        rw [← Nat.shiftLeft_add_eq_or_of_lt hM]
        rfl
      have h₁ := mt neg_one_exponent_iff.2 ‹_›
      have h₂ := mt zero_exponent_iff.2 ‹_›
      refine ⟨h₂, by simp at hE; omega, ?_, by simp [Format.exponentBias]⟩
      rw [hm, Nat.log2_eq_iff (by omega)]
      simp at hM
      omega

/-- A pattern with an exponent field other than zero and all ones is a normal number, whose
    leading bit stands at its biased exponent less 1023. -/
theorem unpack_normal (h₀ : (@unpackExponent .binary64 b).toNat ≠ 0)
    (h₁ : (@unpackExponent .binary64 b).toNat ≠ 2047) :
    ∃ s m e hm, UnpackedFloat.unpack .binary64 b = .finite s m e hm ∧
      totalExponent m e = (@unpackExponent .binary64 b).toNat - 1022 := by
  have hfin := isFinite_unpack_iff.2 h₁
  generalize hu : UnpackedFloat.unpack .binary64 b = u at hfin
  cases u with
  | infinity s => simp [UnpackedFloat.isFinite] at hfin
  | notANumber => simp [UnpackedFloat.isFinite] at hfin
  | zero s =>
    exfalso
    apply h₀
    unfold UnpackedFloat.unpack at hu
    dsimp only at hu
    rw [← zero_exponent_iff]
    split at hu
    · split at hu <;> cases hu
    · split at hu
      · assumption
      · cases hu
  | finite s m e hm =>
    refine ⟨s, m, e, hm, rfl, ?_⟩
    rcases unpack_eq_finite hu with ⟨h, -⟩ | ⟨-, -, hlog, rfl⟩
    · exact absurd h h₀
    · simp only [totalExponent, hlog]
      omega

end Bits

/-- The exponent field of a pattern read from a natural number. -/
@[simp] theorem unpackExponent_ofNat (n : Nat) :
    (@unpackExponent .binary64 (BitVec.ofNat 64 n)).toNat = n / 2^52 % 2^11 := by
  rw [unpackExponent_def]
  simp only [BitVec.extractLsb'_toNat, Nat.shiftRight_eq_div_pow]
  change (BitVec.ofNat 64 n).toNat / 2^52 % 2^11 = _
  rw [BitVec.toNat_ofNat]
  omega

/-- Repacking an unpacked pattern changes only the NaN patterns, which unpack alike. -/
theorem unpack_pack_unpack (b : BitVec Format.binary64.numBits) :
    UnpackedFloat.unpack .binary64
        (UnpackedFloat.pack .binary64 (UnpackedFloat.unpack .binary64 b)) =
      UnpackedFloat.unpack .binary64 b := by
  rw [pack_unpack]
  split
  · rename_i h
    simp only [isNaNBits, decide_eq_true_eq] at h
    have hnan : (UnpackedFloat.unpack .binary64 b).isNaN = true := by
      rw [isNaN_unpack_iff, ← neg_one_exponent_iff, ne_eq, ← zero_mantissa_iff]
      exact h
    rw [unpack_packedNaN, ← UnpackedFloat.isNaN_iff.1 hnan]
  · rfl

/-! ## Packing -/

/-- Packing a number that is not NaN gives a pattern that is not NaN. -/
theorem isNaN_unpack_pack {u : UnpackedFloat} (hu : u.isNaN = false) :
    (UnpackedFloat.unpack .binary64 (UnpackedFloat.pack .binary64 u)).isNaN = false := by
  rw [Bool.eq_false_iff, ne_eq, isNaN_unpack_iff]
  rintro ⟨hE, hM⟩
  cases u with
  | notANumber => simp [UnpackedFloat.isNaN] at hu
  | infinity s => simp [UnpackedFloat.pack, packedInfinity] at hM
  | zero s => simp [UnpackedFloat.pack, packedZero] at hE
  | finite s m e hm =>
    simp only [UnpackedFloat.pack] at hE hM
    split_ifs at hE hM with h₁ h₂
    · simp [packedInfinity] at hM
    · simp only [unpackExponent_packComponents, BitVec.toNat_ofNat,
        binary64_exponentBias] at hE h₁
      omega
    · simp at hE

/-- Zero packs to a finite pattern. -/
theorem isFinite_unpack_pack_zero (s : Sign) :
    (UnpackedFloat.unpack .binary64 (UnpackedFloat.pack .binary64 (.zero s))).isFinite := by
  simp [UnpackedFloat.pack, packedZero, isFinite_unpack_iff]

/-- A finite number packs to a finite pattern when its exponent is at most 971, the
    exponent of the largest double. -/
theorem isFinite_unpack_pack_finite {s : Sign} {m : Nat} {e : Int} {hm : 0 < m}
    (he : e ≤ 971) :
    (UnpackedFloat.unpack .binary64
      (UnpackedFloat.pack .binary64 (.finite s m e hm))).isFinite := by
  rw [isFinite_unpack_iff]
  have hbig : ¬ 2 ^ Format.binary64.exponentBits ≤
      (e + Format.binary64.exponentBias +
        Format.binary64.mantissaBitsWithoutImplicit).toNat + 1 := by
    simp only [binary64_exponentBias]
    omega
  simp only [UnpackedFloat.pack, if_neg hbig]
  split
  · simp only [unpackExponent_packComponents, BitVec.toNat_ofNat, binary64_exponentBias]
    omega
  · simp

/-! ## Rounding -/

theorem shiftRight_mantissa (em : ExtendedMantissa) (k : Nat) :
    (em >>> k).mantissa = em.mantissa / 2^k := by
  induction k with
  | zero => simp [HShiftRight.hShiftRight, Nat.repeat]
  | succ k ih =>
    change (ExtendedMantissa.shiftRightOne (em >>> k)).mantissa = _
    simp only [ExtendedMantissa.shiftRightOne, ih, Nat.div_div_eq_div_mul, Nat.pow_succ]

theorem roundedMantissa_le (em : ExtendedMantissa) : em.roundedMantissa ≤ em.mantissa + 1 := by
  rcases em with ⟨m, r, s⟩
  cases r <;> cases s <;>
    simp [ExtendedMantissa.roundedMantissa, ExtendedMantissa.accuracy,
      Accuracy.roundToNearestEven]
  omega

theorem shiftToExponent_mantissa (m : Nat) (e : Int) (acc : Accuracy) (t : Int) :
    (shiftToExponent m e acc t).1.mantissa = m / 2^(t - e).toNat := by
  simp only [shiftToExponent, shiftRight_mantissa]
  cases acc with
  | exact => rfl
  | inexact o => cases o <;> rfl

/-- A shift never lowers the exponent. -/
theorem shiftToExponent_exponent (m : Nat) (e : Int) (acc : Accuracy) (t : Int) :
    (shiftToExponent m e acc t).2 = max e t := by
  simp only [shiftToExponent]
  omega

theorem log2_succ_le (n : Nat) : (n + 1).log2 ≤ n.log2 + 1 := by
  rw [← Nat.lt_succ_iff, Nat.log2_lt (by omega)]
  have := @Nat.lt_log2_self n
  have : 2 ^ (n.log2 + 1) < 2 ^ (n.log2 + 1 + 1) := Nat.pow_lt_pow_right (by omega) (by omega)
  omega

theorem log2_div_two_pow (n k : Nat) : (n / 2^k).log2 = n.log2 - k := by
  simp only [Nat.log2_eq_log_two, Nat.log_div_base_pow]

theorem log2_mono {a b : Nat} (h : a ≤ b) : a.log2 ≤ b.log2 := by
  simp only [Nat.log2_eq_log_two]
  exact Nat.log_mono_right h

/-- Rounding gives zero or a finite number whose exponent is at most the larger of the
    exponent it was given and the one its leading bit calls for. -/
theorem roundWithAccuracy_cases (s : Sign) (m : Nat) (e : Int) (acc : Accuracy) :
    roundWithAccuracy .binary64 s m e acc = .zero s ∨
    ∃ m' e' hm', roundWithAccuracy .binary64 s m e acc = .finite s m' e' hm' ∧
      e' ≤ max e (max (totalExponent m e - 52) (-1074)) := by
  unfold roundWithAccuracy shiftToTargetExponent
  -- the first shift drops `k` bits and raises the exponent by as much
  have hm₁ := shiftToExponent_mantissa m e acc (Format.binary64.targetExponent (totalExponent m e))
  have he₁ := shiftToExponent_exponent m e acc (Format.binary64.targetExponent (totalExponent m e))
  generalize shiftToExponent m e acc (Format.binary64.targetExponent (totalExponent m e)) = first
    at hm₁ he₁
  obtain ⟨em, e₁⟩ := first
  dsimp only at hm₁ he₁ ⊢
  have hr := roundedMantissa_le em
  have he₂ := shiftToExponent_exponent em.roundedMantissa e₁ .exact
    (Format.binary64.targetExponent (totalExponent em.roundedMantissa e₁))
  generalize shiftToExponent em.roundedMantissa e₁ .exact
    (Format.binary64.targetExponent (totalExponent em.roundedMantissa e₁)) = second at he₂
  obtain ⟨em₂, e₂⟩ := second
  dsimp only at he₂ ⊢
  split
  · exact .inl rfl
  · rename_i hne
    refine .inr ⟨_, _, Nat.pos_of_ne_zero hne, rfl, ?_⟩
    -- the rounded mantissa has at most one bit more than what the first shift kept
    have hlog : (em.roundedMantissa).log2 ≤
        (m / 2 ^ (Format.binary64.targetExponent (totalExponent m e) - e).toNat).log2 + 1 := by
      rw [← hm₁]
      exact (log2_mono hr).trans (log2_succ_le _)
    rw [log2_div_two_pow] at hlog
    simp only [Format.targetExponent, Format.mantissaBits, Format.minExponent, totalExponent] at *
    omega

/-- A product of finite numbers is never a NaN. -/
theorem isNaN_mul_of_isFinite {u v : UnpackedFloat} (hu : u.isFinite) (hv : v.isFinite) :
    (UnpackedFloat.mul .binary64 u v).isNaN = false := by
  cases u with
  | zero s => cases v <;> simp_all [UnpackedFloat.isFinite, UnpackedFloat.mul, UnpackedFloat.isNaN]
  | finite s m e hm =>
    cases v with
    | zero s' => rfl
    | finite s' m' e' hm' =>
      rw [UnpackedFloat.mul]
      rcases roundWithAccuracy_cases (s * s') (m * m') (e + e') .exact with h | ⟨_, _, _, h, -⟩ <;>
        rw [h] <;> rfl
    | _ => simp [UnpackedFloat.isFinite] at hv
  | _ => simp [UnpackedFloat.isFinite] at hu

/-! ## Division -/

theorem log2_mul_two_pow {m : Nat} (hm : m ≠ 0) (k : Nat) : (m * 2^k).log2 = m.log2 + k := by
  rw [Nat.log2_eq_iff (by positivity)]
  have h₁ := Nat.log2_self_le hm
  have h₂ := @Nat.lt_log2_self m
  constructor
  · rw [Nat.pow_add]; exact Nat.mul_le_mul_right _ h₁
  · rw [Nat.add_right_comm, Nat.pow_add]
    exact Nat.mul_lt_mul_of_pos_right h₂ (by positivity)

/-- The bits of a quotient and of its divisor together are at most those of the
    dividend. -/
theorem log2_div_add_le {a b : Nat} (hb : b ≠ 0) (hq : a / b ≠ 0) :
    (a / b).log2 + b.log2 ≤ a.log2 := by
  have ha : a ≠ 0 := by rintro rfl; simp at hq
  rw [Nat.le_log2 ha, Nat.pow_add]
  calc 2 ^ (a / b).log2 * 2 ^ b.log2 ≤ a / b * b :=
        Nat.mul_le_mul (Nat.log2_self_le hq) (Nat.log2_self_le hb)
    _ ≤ a := Nat.div_mul_le_self a b

/-- A quotient at exponent `t` has its leading bit at most one place above the difference
    of the operands' leading bits, or it is zero. -/
theorem totalExponent_quotient_le {m₁ m₂ : Nat} (hm₁ : 0 < m₁) (hm₂ : 0 < m₂) {e₁ e₂ t : Int}
    (ht : t ≤ e₁ - e₂) :
    totalExponent ((m₁ <<< (e₁ - e₂ - t).toNat) / m₂) t ≤
      max (totalExponent m₁ e₁ - totalExponent m₂ e₂ + 1) (t + 1) := by
  have hlog := log2_mul_two_pow (Nat.pos_iff_ne_zero.1 hm₁) (e₁ - e₂ - t).toNat
  rw [← Nat.shiftLeft_eq] at hlog
  generalize m₁ <<< (e₁ - e₂ - t).toNat = a at hlog ⊢
  simp only [totalExponent]
  by_cases hq : a / m₂ = 0
  · simp only [hq, Nat.log2_zero]
    omega
  · have := log2_div_add_le (Nat.pos_iff_ne_zero.1 hm₂) hq
    omega

/-- Division first finds a quotient at an exponent no higher than the one the difference
    of the operands' leading bits calls for, with its leading bit at most one place above
    that difference. -/
theorem divCore_bounds {m₁ m₂ : Nat} (hm₁ : 0 < m₁) (hm₂ : 0 < m₂) (e₁ e₂ : Int) :
    (divCore .binary64 m₁ e₁ m₂ e₂).2.1 ≤
        max (totalExponent m₁ e₁ - totalExponent m₂ e₂ - 53) (-1074) ∧
      totalExponent (divCore .binary64 m₁ e₁ m₂ e₂).1 (divCore .binary64 m₁ e₁ m₂ e₂).2.1 ≤
        max (totalExponent m₁ e₁ - totalExponent m₂ e₂ + 1) (-1073) := by
  have ht : (divCore .binary64 m₁ e₁ m₂ e₂).2.1 = min (e₁ - e₂)
      (Format.binary64.targetExponent (totalExponent m₁ e₁ - totalExponent m₂ e₂)) := rfl
  have hq : (divCore .binary64 m₁ e₁ m₂ e₂).1 =
      (m₁ <<< (e₁ - e₂ - (divCore .binary64 m₁ e₁ m₂ e₂).2.1).toNat) / m₂ := rfl
  generalize (divCore .binary64 m₁ e₁ m₂ e₂).2.1 = t at ht hq ⊢
  rw [hq]
  have hq_le := totalExponent_quotient_le hm₁ hm₂ (t := t) (by rw [ht]; exact min_le_left _ _)
  simp only [Format.targetExponent, Format.mantissaBits, Format.minExponent] at ht
  simp at ht
  omega

/-! ## Comparison -/

/-- Comparing the other way round swaps the outcome. -/
theorem compare_swap (u v : UnpackedFloat) :
    v.compare u = (u.compare v).map Ordering.swap := by
  -- every pair of constructors and signs; equal signs compare exponents, then mantissas
  rcases u with s₁ | _ | s₁ | ⟨s₁, m₁, e₁, h₁⟩ <;> rcases v with s₂ | _ | s₂ | ⟨s₂, m₂, e₂, h₂⟩ <;>
    (try cases s₁) <;> (try cases s₂) <;>
    simp [UnpackedFloat.compare, Ordering.swap_then, Int.compare_swap, Nat.compare_swap] <;> rfl

/-- Only a NaN is incomparable. -/
theorem compare_eq_none_iff (u v : UnpackedFloat) :
    u.compare v = none ↔ u = .notANumber ∨ v = .notANumber := by
  rcases u with s₁ | _ | s₁ | ⟨s₁, m₁, e₁, h₁⟩ <;> rcases v with s₂ | _ | s₂ | ⟨s₂, m₂, e₂, h₂⟩ <;>
    (try cases s₁) <;> (try cases s₂) <;> simp [UnpackedFloat.compare]

end Binary64

open Binary64

/-! ## Doubles from bits -/

theorem Float.unpack_ofBits (u : UInt64) :
    (Float.ofBits u).toModel.unpack = UnpackedFloat.unpack .binary64 u.toBitVec :=
  unpack_pack_unpack u.toBitVec

theorem Float.toBitVec_ofBits {u : UInt64} (h : @isNaNBits .binary64 u.toBitVec = false) :
    (Float.ofBits u).toModel.toBits.toBitVec = u.toBitVec := by
  change UnpackedFloat.pack .binary64 (UnpackedFloat.unpack .binary64 u.toBitVec) = u.toBitVec
  rw [pack_unpack, if_neg (by simp [h])]

/-- The fields of a double given by its sign and the bits below it. -/
theorem Float.unpack_ofMagnitudeBits (negative : Bool) (magnitude : Nat) :
    (Float.ofMagnitudeBits negative magnitude).toModel.unpack =
      UnpackedFloat.unpack .binary64
        (BitVec.ofNat 64 ((if negative then 2^63 else 0) + magnitude)) := by
  rw [Float.ofMagnitudeBits, Float.unpack_ofBits]
  rfl

theorem Float.exponentField_ofMagnitudeBits (negative : Bool) {magnitude : Nat}
    (h : magnitude < 2^63) :
    (@unpackExponent .binary64
      (BitVec.ofNat 64 ((if negative then 2^63 else 0) + magnitude))).toNat =
      magnitude / 2^52 := by
  rw [unpackExponent_ofNat]
  cases negative <;> simp <;> omega

/-- A double whose bits below the sign stop short of the infinities is finite. -/
theorem Float.isFinite_ofMagnitudeBits (negative : Bool) {magnitude : Nat}
    (h : magnitude < 2047 * 2^52) : (Float.ofMagnitudeBits negative magnitude).isFinite := by
  change (Float.ofMagnitudeBits negative magnitude).toModel.unpack.isFinite = true
  rw [Float.unpack_ofMagnitudeBits, isFinite_unpack_iff,
    Float.exponentField_ofMagnitudeBits negative (by omega)]
  omega

theorem Float.exponentField (x : Float) :
    (@unpackExponent .binary64 x.toModel.toBits.toBitVec).toNat = (Float.fields x).2.1 := by
  rw [unpackExponent_def]
  simp only [BitVec.extractLsb'_toNat, Nat.shiftRight_eq_div_pow]
  rfl

/-- A double is finite exactly when its exponent field is not all ones. -/
theorem Float.isFinite_iff (x : Float) : x.isFinite ↔ (Float.fields x).2.1 ≠ 2047 := by
  rw [← Float.exponentField]
  exact isFinite_unpack_iff

/-- The exponent field of a double given by its bits below the sign, short of the
    infinities. -/
theorem Float.fields_ofMagnitudeBits (negative : Bool) {magnitude : Nat}
    (h : magnitude < 2047 * 2^52) :
    (Float.fields (Float.ofMagnitudeBits negative magnitude)).2.1 = magnitude / 2^52 := by
  have hE := Float.exponentField_ofMagnitudeBits negative (show magnitude < 2^63 by omega)
  rw [← Float.exponentField, Float.ofMagnitudeBits, Float.toBitVec_ofBits]
  · exact hE
  · have hE' : (@unpackExponent .binary64 (UInt64.ofNat
        ((if negative then Nat.pow 2 63 else 0) + magnitude)).toBitVec).toNat ≠ 2047 := by
      rw [Nat.pow_eq]
      exact hE ▸ by omega
    simp only [isNaNBits, decide_eq_false_iff_not, not_and]
    exact fun h' => absurd (neg_one_exponent_iff.1 h') hE'

/-- A finite double is zero, or a number at an exponent of at most 971 whose leading bit
    stands at most at `2^1023`. -/
theorem Float.unpack_of_isFinite {x : Float} (hx : x.isFinite) :
    (∃ s, x.toModel.unpack = .zero s) ∨
      ∃ s m e hm, x.toModel.unpack = .finite s m e hm ∧ e ≤ 971 ∧ totalExponent m e ≤ 1024 := by
  change x.toModel.unpack.isFinite = true at hx
  generalize hu : x.toModel.unpack = u at hx
  cases u with
  | infinity s => simp [UnpackedFloat.isFinite] at hx
  | notANumber => simp [UnpackedFloat.isFinite] at hx
  | zero s => exact .inl ⟨s, rfl⟩
  | finite s m e hm =>
    refine .inr ⟨s, m, e, hm, rfl, ?_⟩
    have hE := (@unpackExponent .binary64 x.toModel.toBits.toBitVec).isLt
    simp only [binary64_exponentBits] at hE
    rcases unpack_eq_finite hu with ⟨-, hsmall, rfl⟩ | ⟨-, hlt, hlog, rfl⟩
    · have := (Nat.log2_lt (Nat.pos_iff_ne_zero.1 hm)).2 hsmall
      simp only [totalExponent]
      omega
    · simp only [totalExponent, hlog]
      omega

/-- A double is finite when it is neither a NaN nor infinite. -/
theorem Float.isFinite_eq_not_isNaN_and_not_isInf (x : Float) :
    x.isFinite = (!x.isNaN && !x.isInf) :=
  Binary64.isFinite_eq_not_isNaN_and_not_isInf x.toModel.unpack

theorem Float.isNaN_eq_false_of_isFinite {x : Float} (h : x.isFinite) : x.isNaN = false := by
  rw [Float.isFinite_eq_not_isNaN_and_not_isInf] at h
  simp only [Bool.and_eq_true, Bool.not_eq_true'] at h
  exact h.1

theorem Float.isInf_eq_false_of_isFinite {x : Float} (h : x.isFinite) : x.isInf = false := by
  rw [Float.isFinite_eq_not_isNaN_and_not_isInf] at h
  simp only [Bool.and_eq_true, Bool.not_eq_true'] at h
  exact h.2

/-! ## Products, quotients and negation -/

/-- A product of finite doubles that is not infinite is finite. -/
theorem Float.isFinite_mul {x y : Float} (hx : x.isFinite) (hy : y.isFinite)
    (h : (x * y).isInf = false) : (x * y).isFinite := by
  have hnan : (x * y).toModel.unpack.isNaN = false :=
    isNaN_unpack_pack (isNaN_mul_of_isFinite hx hy)
  change (x * y).toModel.unpack.isFinite = true
  change (x * y).toModel.unpack.isInf = false at h
  rw [Binary64.isFinite_eq_not_isNaN_and_not_isInf, hnan, h]
  rfl

/-- Dividing a finite double by one of magnitude at least 2 (a finite double whose
    exponent field is at least 1024) gives a finite double. -/
theorem Float.isFinite_div {x y : Float} (hx : x.isFinite) (hy₁ : 1024 ≤ (Float.fields y).2.1)
    (hy₂ : (Float.fields y).2.1 < 2047) : (x / y).isFinite := by
  obtain ⟨s₂, m₂, e₂, hm₂, hy, htot₂⟩ := unpack_normal (b := y.toModel.toBits.toBitVec)
    (by rw [Float.exponentField]; omega) (by rw [Float.exponentField]; omega)
  rw [Float.exponentField] at htot₂
  change (UnpackedFloat.unpack .binary64 (UnpackedFloat.pack .binary64
    (UnpackedFloat.div .binary64 x.toModel.unpack y.toModel.unpack))).isFinite = true
  change y.toModel.unpack = _ at hy
  rw [hy]
  rcases Float.unpack_of_isFinite hx with ⟨s, hs⟩ | ⟨s, m, e, hm, hs, -, htot⟩
  · rw [hs]
    exact isFinite_unpack_pack_zero _
  · rw [hs]
    obtain ⟨ht, hq⟩ := divCore_bounds hm hm₂ e e₂
    simp only [UnpackedFloat.div]
    generalize divCore .binary64 m e m₂ e₂ = d at ht hq
    obtain ⟨q, t, acc⟩ := d
    dsimp only at ht hq ⊢
    rcases roundWithAccuracy_cases (s / s₂) q t acc with h | ⟨m', e', hm', h, he'⟩ <;> rw [h]
    · exact isFinite_unpack_pack_zero _
    · exact isFinite_unpack_pack_finite (by omega)

/-- The negation of a finite double is finite. -/
theorem Float.isFinite_neg {x : Float} (hx : x.isFinite) : (-x).isFinite := by
  change (UnpackedFloat.unpack .binary64 (UnpackedFloat.pack .binary64
    x.toModel.unpack.neg)).isFinite = true
  rcases Float.unpack_of_isFinite hx with ⟨s, hs⟩ | ⟨s, m, e, hm, hs, he, -⟩ <;>
    rw [hs, UnpackedFloat.neg]
  · exact isFinite_unpack_pack_zero _
  · exact isFinite_unpack_pack_finite he

/-! ## Integers and powers of ten -/

theorem Nat.divRoundEven_bounds (a b : Nat) :
    a / b ≤ Nat.divRoundEven a b ∧ Nat.divRoundEven a b ≤ a / b + 1 := by
  unfold Nat.divRoundEven
  dsimp only
  split_ifs <;> omega

/-- A positive integer whose leading bit stands below `2^1023` rounds to a finite double
    whose exponent field is at least 1023 plus the place of that bit. -/
theorem Float.ofRatio_one (negative : Bool) {n : Nat} (h₀ : 0 < n) (hL₃ : n.log2 < 1023) :
    ∃ magnitude, Float.ofRatio negative n 1 = Float.ofMagnitudeBits negative magnitude ∧
      (1023 + n.log2) * 2^52 ≤ magnitude ∧ magnitude < 2047 * 2^52 := by
  have hL₁ : 2^n.log2 ≤ n := Nat.log2_self_le (by omega)
  have hL₂ : n < 2^(n.log2+1) := Nat.lt_log2_self
  have hlog1 : Nat.log2 1 = 0 := Nat.log2_two_pow (n := 0)
  -- the leading bit of `n / 1` is that of `n`
  have he : (if n * 2 ^ (-(n.log2 : Int)).toNat < 2 ^ n.log2 then (n.log2 : Int) - 1
      else n.log2) = n.log2 := by
    rw [if_neg]
    simp only [Int.toNat_neg_natCast, Nat.pow_zero, Nat.mul_one]
    omega
  have hq : max ((n.log2 : Int) - 52) (-1074) = n.log2 - 52 := max_eq_left (by omega)
  unfold Float.ofRatio
  rw [if_neg (by omega)]
  simp only [Nat.pow_eq, hlog1, Nat.cast_zero, sub_zero, Int.toNat_natCast, Nat.one_mul, he, hq]
  generalize hk₁ : (-((n.log2 : Int) - 52)).toNat = k₁
  generalize hk₂ : ((n.log2 : Int) - 52).toNat = k₂
  have hk : n.log2 + k₁ = 52 + k₂ := by omega
  -- the scaled integer part has exactly 53 bits, so rounding gives `2^52 ≤ m ≤ 2^53`
  have hlow : 2^52 * 2^k₂ ≤ n * 2^k₁ := by
    rw [← Nat.pow_add, show 52 + k₂ = n.log2 + k₁ by omega, Nat.pow_add]
    exact Nat.mul_le_mul_right _ hL₁
  have hhigh : n * 2^k₁ < 2^53 * 2^k₂ := by
    rw [← Nat.pow_add, show 53 + k₂ = (n.log2 + 1) + k₁ by omega, Nat.pow_add]
    exact Nat.mul_lt_mul_of_pos_right hL₂ (by positivity)
  have hdiv₁ : 2^52 ≤ n * 2^k₁ / 2^k₂ := (Nat.le_div_iff_mul_le (by positivity)).2 hlow
  have hdiv₂ : n * 2^k₁ / 2^k₂ < 2^53 := (Nat.div_lt_iff_lt_mul (by positivity)).2 hhigh
  have hround := Nat.divRoundEven_bounds (n * 2^k₁) (2^k₂)
  generalize Nat.divRoundEven (n * 2^k₁) (2^k₂) = m at hround
  by_cases hcarry : m = 2^53
  · simp only [hcarry, if_true]
    rw [if_neg (by omega), if_neg (by omega)]
    refine ⟨_, rfl, ?_, ?_⟩ <;> omega
  · simp only [hcarry, if_false]
    rw [if_neg (by omega), if_neg (by omega)]
    refine ⟨_, rfl, ?_, ?_⟩ <;> omega

/-- An integer whose leading bit stands below `2^1023` rounds to a finite double. -/
theorem Float.isFinite_ofRatio_one (negative : Bool) {n : Nat} (h : n.log2 < 1023) :
    (Float.ofRatio negative n 1).isFinite := by
  rcases Nat.eq_zero_or_pos n with rfl | h₀
  · rw [Float.ofRatio, if_pos rfl]
    exact Float.isFinite_ofMagnitudeBits negative (by decide)
  · obtain ⟨magnitude, heq, -, hlt⟩ := Float.ofRatio_one negative h₀ h
    rw [heq]
    exact Float.isFinite_ofMagnitudeBits negative hlt

/-- Powers of ten from `10` to `10^308` round to finite doubles of magnitude at least 2. -/
theorem Float.fields_powerOfTen {k : Nat} (h₁ : 1 ≤ k) (h₂ : k ≤ 308) :
    1024 ≤ (Float.fields (Float.powerOfTen k)).2.1 ∧
      (Float.fields (Float.powerOfTen k)).2.1 < 2047 := by
  rcases Nat.lt_or_eq_of_le h₂ with h₂ | rfl
  · have hsmall : (10^k).log2 < 1023 :=
      lt_of_le_of_lt (log2_mono (Nat.pow_le_pow_right (by decide) (by omega : k ≤ 307)))
        (by decide +kernel)
    obtain ⟨magnitude, heq, hlo, hhi⟩ := Float.ofRatio_one false (n := 10^k) (by positivity) hsmall
    have hlog : 3 ≤ (10^k).log2 := (Nat.le_log2 (by positivity)).2
      (le_trans (by decide : 2^3 ≤ 10^1) (Nat.pow_le_pow_right (by decide) h₁))
    rw [Float.powerOfTen, Nat.pow_eq, heq, Float.fields_ofMagnitudeBits false hhi]
    omega
  · -- the largest power of ten below the largest double
    decide +kernel

theorem Float.isFinite_powerOfTen {k : Nat} (h : k ≤ 308) : (Float.powerOfTen k).isFinite := by
  rcases Nat.eq_zero_or_pos k with rfl | hk
  · exact Float.isFinite_ofRatio_one false (by decide)
  · have := Float.fields_powerOfTen hk h
    rw [Float.isFinite_iff]
    omega

/-! ## The reader's decimals -/

/-- Scaling a finite double by powers of ten gives a finite double, or nothing: a
    product that overflows is refused, and a quotient by `10^k` with `k ≥ 1` only
    shrinks. -/
theorem Float.isFinite_scaleDecimalFrom {fuel : Nat} {f g : Float} {exponent : Int}
    (hf : f.isFinite) (h : Float.scaleDecimalFrom fuel f exponent = some g) : g.isFinite := by
  induction fuel generalizing f exponent with
  | zero =>
    cases h
    exact hf
  | succ fuel ih =>
    unfold Float.scaleDecimalFrom at h
    dsimp only at h
    split_ifs at h with hsmall hpos hinf hzero hpos'
    · cases h
      exact Float.isFinite_mul hf (Float.isFinite_powerOfTen hsmall) (by simpa using hinf)
    · cases h
      have := Float.fields_powerOfTen (k := exponent.natAbs) (by omega) hsmall
      exact Float.isFinite_div hf this.1 this.2
    · cases h
      exact hf
    · have := Float.fields_powerOfTen (k := 308) (by decide) le_rfl
      exact ih (Float.isFinite_div hf this.1 this.2) h

/-- The JSON reader's double for a significand whose leading bit stands below `2^1023` is
    finite whenever it is in range. -/
theorem Float.isFinite_scaleDecimal {negative : Bool} {significand : Nat} {exponent : Int}
    {f : Float} (hs : significand.log2 < 1023)
    (h : Float.scaleDecimal? negative significand exponent = some f) : f.isFinite := by
  unfold Float.scaleDecimal? at h
  split at h
  · rename_i g hg
    cases h
    have hg := Float.isFinite_scaleDecimalFrom (Float.isFinite_ofRatio_one false hs) hg
    cases negative
    · exact hg
    · exact Float.isFinite_neg hg
  · cases h

/-! ## Order -/

theorem Float.le_iff_compare {x y : Float} :
    x ≤ y ↔ (x.toModel.unpack.compare y.toModel.unpack).any (·.isLE) = true := by
  change x.le y = true ↔ _
  unfold Float.le
  simp only [decide_eq_true_eq]
  rfl

theorem Float.lt_iff_compare {x y : Float} :
    x < y ↔ (x.toModel.unpack.compare y.toModel.unpack == some .lt) = true := by
  change x.lt y = true ↔ _
  unfold Float.lt
  simp only [decide_eq_true_eq]
  rfl

/-- Between doubles that are not NaN, "not at most" is "strictly above". -/
theorem Float.not_le_iff_lt {x y : Float} (hx : x.isNaN = false) (hy : y.isNaN = false) :
    ¬ (x ≤ y) ↔ y < x := by
  rw [Float.le_iff_compare, Float.lt_iff_compare, compare_swap x.toModel.unpack y.toModel.unpack]
  rcases h : x.toModel.unpack.compare y.toModel.unpack with _ | o
  · change x.toModel.unpack.isNaN = false at hx
    change y.toModel.unpack.isNaN = false at hy
    rcases (compare_eq_none_iff _ _).1 h with h' | h' <;> simp [h', UnpackedFloat.isNaN] at hx hy
  · cases o <;> simp

end FeatureFlags
