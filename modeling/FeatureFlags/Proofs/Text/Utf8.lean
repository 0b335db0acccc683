import Mathlib.Tactic.SplitIfs
import FeatureFlags.Text.Utf8

/-!
# UTF-8 reads back what it writes

Strict reading of the bytes of a string gives the string back. A character is written in
one to four bytes, by the range of its code point, and reading the front of those bytes
takes exactly them and gives the character back: the lead byte names the width, the second
byte lies inside the ranges that exclude overlong forms, surrogates and values past
U+10FFFF (no `Char` is one of these), and the payload bits put the code point together.

* `step_encodeChar`: the front of a character's bytes, whatever follows, is that character;
* `validate_encode`: strict reading of the bytes of a string gives the string;
* `decodeLossy_encode`: so does lossy reading.
-/

namespace FeatureFlags

namespace Utf8

theorem toNat_toUInt8_of_lt {x : Nat} (h : x < 256) : x.toUInt8.toNat = x :=
  UInt8.toNat_ofNat_of_lt' h

/-- A code point is below the surrogates, or above them and at most U+10FFFF. -/
theorem toNat_valid (c : Char) :
    c.toNat < 0xD800 ∨ (0xDFFF < c.toNat ∧ c.toNat < 0x110000) :=
  c.valid

/-! ### One character, by its width -/

theorem step_encodeChar_one (c : Char) (rest : List UInt8) (h₁ : c.toNat < 0x80) :
    step (encodeChar c ++ rest) = some (.scalar c 1) := by
  have hb : c.toNat.toUInt8.toNat = c.toNat := toNat_toUInt8_of_lt (by omega)
  unfold encodeChar
  dsimp only
  rw [if_pos h₁, List.cons_append, List.nil_append]
  simp only [step]
  rw [if_pos (by rw [UInt8.lt_iff_toNat_lt, hb]; exact h₁), hb, Char.ofNat_toNat]

theorem step_encodeChar_two (c : Char) (rest : List UInt8) (h₁ : ¬c.toNat < 0x80)
    (h₂ : c.toNat < 0x800) : step (encodeChar c ++ rest) = some (.scalar c 2) := by
  have hb : (0xC0 + c.toNat / 0x40).toUInt8.toNat = 0xC0 + c.toNat / 0x40 :=
    toNat_toUInt8_of_lt (by omega)
  have hc : (0x80 + c.toNat % 0x40).toUInt8.toNat = 0x80 + c.toNat % 0x40 :=
    toNat_toUInt8_of_lt (by omega)
  unfold encodeChar
  dsimp only
  rw [if_neg h₁, if_pos h₂, List.cons_append, List.cons_append, List.nil_append]
  simp only [step, isContinuation, payload, UInt8.le_iff_toNat_le, UInt8.lt_iff_toNat_lt, hb, hc,
    Bool.and_eq_true, decide_eq_true_eq, UInt8.reduceToNat]
  rw [if_neg (by omega), if_pos (by omega), if_pos (by omega)]
  have hval : (0xC0 + c.toNat / 0x40) % 0x20 * 0x40 + (0x80 + c.toNat % 0x40) % 0x40 =
      c.toNat := by
    omega
  rw [hval, Char.ofNat_toNat]

theorem step_encodeChar_three (c : Char) (rest : List UInt8) (h₂ : ¬c.toNat < 0x800)
    (h₃ : c.toNat < 0x10000) : step (encodeChar c ++ rest) = some (.scalar c 3) := by
  have hv := toNat_valid c
  have hb : (0xE0 + c.toNat / 0x1000).toUInt8.toNat = 0xE0 + c.toNat / 0x1000 :=
    toNat_toUInt8_of_lt (by omega)
  have hc : (0x80 + c.toNat / 0x40 % 0x40).toUInt8.toNat = 0x80 + c.toNat / 0x40 % 0x40 :=
    toNat_toUInt8_of_lt (by omega)
  have hd : (0x80 + c.toNat % 0x40).toUInt8.toNat = 0x80 + c.toNat % 0x40 :=
    toNat_toUInt8_of_lt (by omega)
  -- After `E0` the code point is at least U+0800, so not overlong; after `ED` it is
  -- below U+D800, as a `Char` is no surrogate.
  have hsecond : secondOfThree (0xE0 + c.toNat / 0x1000).toUInt8
      (0x80 + c.toNat / 0x40 % 0x40).toUInt8 = true := by
    simp only [secondOfThree, isContinuation, ← UInt8.toNat_inj, UInt8.le_iff_toNat_le, hb, hc,
      UInt8.reduceToNat]
    split_ifs <;> simp only [Bool.and_eq_true, decide_eq_true_eq] <;> omega
  unfold encodeChar
  dsimp only
  rw [if_neg (by omega), if_neg h₂, if_pos h₃]
  simp only [List.cons_append, List.nil_append]
  simp only [step, hsecond, isContinuation, payload, UInt8.le_iff_toNat_le, UInt8.lt_iff_toNat_lt,
    hb, hc, hd, Bool.and_eq_true, decide_eq_true_eq, UInt8.reduceToNat, if_true]
  rw [if_neg (by omega), if_neg (by omega), if_pos (by omega), if_pos (by omega)]
  have hval : (0xE0 + c.toNat / 0x1000) % 0x10 * 0x1000 +
      (0x80 + c.toNat / 0x40 % 0x40) % 0x40 * 0x40 + (0x80 + c.toNat % 0x40) % 0x40 =
      c.toNat := by
    omega
  rw [hval, Char.ofNat_toNat]

theorem step_encodeChar_four (c : Char) (rest : List UInt8) (h₃ : ¬c.toNat < 0x10000) :
    step (encodeChar c ++ rest) = some (.scalar c 4) := by
  have hv := toNat_valid c
  have hb : (0xF0 + c.toNat / 0x40000).toUInt8.toNat = 0xF0 + c.toNat / 0x40000 :=
    toNat_toUInt8_of_lt (by omega)
  have hc : (0x80 + c.toNat / 0x1000 % 0x40).toUInt8.toNat = 0x80 + c.toNat / 0x1000 % 0x40 :=
    toNat_toUInt8_of_lt (by omega)
  have hd : (0x80 + c.toNat / 0x40 % 0x40).toUInt8.toNat = 0x80 + c.toNat / 0x40 % 0x40 :=
    toNat_toUInt8_of_lt (by omega)
  have he : (0x80 + c.toNat % 0x40).toUInt8.toNat = 0x80 + c.toNat % 0x40 :=
    toNat_toUInt8_of_lt (by omega)
  -- After `F0` the code point is at least U+10000, so not overlong; after `F4` it is at
  -- most U+10FFFF, as every `Char` is.
  have hsecond : secondOfFour (0xF0 + c.toNat / 0x40000).toUInt8
      (0x80 + c.toNat / 0x1000 % 0x40).toUInt8 = true := by
    simp only [secondOfFour, isContinuation, ← UInt8.toNat_inj, UInt8.le_iff_toNat_le, hb, hc,
      UInt8.reduceToNat]
    split_ifs <;> simp only [Bool.and_eq_true, decide_eq_true_eq] <;> omega
  unfold encodeChar
  dsimp only
  rw [if_neg (by omega), if_neg (by omega), if_neg h₃]
  simp only [List.cons_append, List.nil_append]
  simp only [step, hsecond, isContinuation, payload, UInt8.le_iff_toNat_le, UInt8.lt_iff_toNat_lt,
    hb, hc, hd, he, Bool.and_eq_true, decide_eq_true_eq, UInt8.reduceToNat, if_true]
  rw [if_neg (by omega), if_neg (by omega), if_neg (by omega), if_pos (by omega),
    if_pos (by omega), if_pos (by omega)]
  have hval : (0xF0 + c.toNat / 0x40000) % 0x08 * 0x40000 +
      (0x80 + c.toNat / 0x1000 % 0x40) % 0x40 * 0x1000 +
      (0x80 + c.toNat / 0x40 % 0x40) % 0x40 * 0x40 + (0x80 + c.toNat % 0x40) % 0x40 =
      c.toNat := by
    omega
  rw [hval, Char.ofNat_toNat]

/-- Reading the front of a character's bytes takes exactly them and gives the character
    back, whatever bytes follow. -/
theorem step_encodeChar (c : Char) (rest : List UInt8) :
    step (encodeChar c ++ rest) = some (.scalar c (encodeChar c).length) := by
  by_cases h₁ : c.toNat < 0x80
  · have hw : (encodeChar c).length = 1 := by simp only [encodeChar, if_pos h₁, List.length]
    rw [step_encodeChar_one c rest h₁, hw]
  by_cases h₂ : c.toNat < 0x800
  · have hw : (encodeChar c).length = 2 := by
      simp only [encodeChar, if_neg h₁, if_pos h₂, List.length]
    rw [step_encodeChar_two c rest h₁ h₂, hw]
  by_cases h₃ : c.toNat < 0x10000
  · have hw : (encodeChar c).length = 3 := by
      simp only [encodeChar, if_neg h₁, if_neg h₂, if_pos h₃, List.length]
    rw [step_encodeChar_three c rest h₂ h₃, hw]
  · have hw : (encodeChar c).length = 4 := by
      simp only [encodeChar, if_neg h₁, if_neg h₂, if_neg h₃, List.length]
    rw [step_encodeChar_four c rest h₃, hw]

theorem one_le_length_encodeChar (c : Char) : 1 ≤ (encodeChar c).length := by
  unfold encodeChar
  dsimp only
  split_ifs <;> simp only [List.length_cons, List.length_nil] <;> omega

theorem length_le_length_flatMap_encodeChar (cs : List Char) :
    cs.length ≤ (cs.flatMap encodeChar).length := by
  induction cs with
  | nil => simp only [List.length_nil, List.flatMap_nil, Nat.le_refl]
  | cons c cs ih =>
    have := one_le_length_encodeChar c
    simp only [List.length_cons, List.flatMap_cons, List.length_append]
    omega

/-! ### Strings -/

/-- Strict reading of the bytes of some characters appends them to what was read before,
    given a step of fuel for each. The induction is on the characters: each step reads one
    of them and drops its bytes. -/
theorem validateFrom_flatMap_encodeChar (cs : List Char) :
    ∀ (fuel index : Nat) (acc : String), cs.length ≤ fuel →
      validateFrom fuel (cs.flatMap encodeChar) index acc = .ok (acc ++ String.ofList cs) := by
  induction cs with
  | nil =>
    intro fuel index acc _
    cases fuel <;> simp [validateFrom, step]
  | cons c cs ih =>
    intro fuel index acc hfuel
    obtain ⟨fuel, rfl⟩ : ∃ f, fuel = f + 1 := ⟨fuel - 1, by simp only [List.length_cons] at hfuel; omega⟩
    rw [List.flatMap_cons, validateFrom, step_encodeChar]
    dsimp only
    rw [List.drop_left, ih fuel _ _ (by simpa using hfuel)]
    congr 1
    apply String.toList_inj.mp
    simp

/-- Strict reading of the bytes of a string gives the string. -/
theorem validate_encode (s : String) : validate (encode s) = .ok s := by
  have hfuel : s.toList.length ≤ (s.toList.flatMap encodeChar).length :=
    length_le_length_flatMap_encodeChar _
  rw [validate, encode, validateFrom_flatMap_encodeChar _ _ _ _ hfuel]
  simp

/-! ### Bytes read as text are the bytes of that text -/

theorem toNat_ofNat_of_valid {n : Nat} (h : n < 0xD800 ∨ (0xDFFF < n ∧ n < 0x110000)) :
    (Char.ofNat n).toNat = n := by
  have hv : n.isValidChar := h
  rw [Char.ofNat, dif_pos hv]
  rfl

theorem toUInt8_of_eq_toNat {n : Nat} {b : UInt8} (h : n = b.toNat) : n.toUInt8 = b := by
  subst h
  exact UInt8.ofNat_toNat

theorem encodeChar_ofNat_one {b : UInt8} (hb : b.toNat < 0x80) :
    encodeChar (Char.ofNat b.toNat) = [b] := by
  unfold encodeChar
  dsimp only
  rw [toNat_ofNat_of_valid (.inl (by omega)), if_pos hb, toUInt8_of_eq_toNat rfl]

theorem encodeChar_ofNat_two {b c : UInt8} (hb : 0xC2 ≤ b.toNat ∧ b.toNat ≤ 0xDF)
    (hc : 0x80 ≤ c.toNat ∧ c.toNat ≤ 0xBF) :
    encodeChar (Char.ofNat (payload b 0x20 * 0x40 + payload c 0x40)) = [b, c] := by
  unfold encodeChar payload
  dsimp only
  rw [toNat_ofNat_of_valid (.inl (by omega)), if_neg (by omega), if_pos (by omega),
    toUInt8_of_eq_toNat (b := b) (by omega), toUInt8_of_eq_toNat (b := c) (by omega)]

/-- Three bytes read as one character: after `E0` the value is at least U+0800, after `ED`
    below the surrogates, and after any other lead byte outside them. -/
theorem encodeChar_ofNat_three {b c d : UInt8} (hb : 0xE0 ≤ b.toNat ∧ b.toNat ≤ 0xEF)
    (hc : 0x80 ≤ c.toNat ∧ c.toNat ≤ 0xBF) (hE0 : b.toNat = 0xE0 → 0xA0 ≤ c.toNat)
    (hED : b.toNat = 0xED → c.toNat ≤ 0x9F) (hd : 0x80 ≤ d.toNat ∧ d.toNat ≤ 0xBF) :
    encodeChar (Char.ofNat (payload b 0x10 * 0x1000 + payload c 0x40 * 0x40 + payload d 0x40)) =
      [b, c, d] := by
  unfold encodeChar payload
  dsimp only
  rw [toNat_ofNat_of_valid (by omega), if_neg (by omega), if_neg (by omega), if_pos (by omega),
    toUInt8_of_eq_toNat (b := b) (by omega), toUInt8_of_eq_toNat (b := c) (by omega),
    toUInt8_of_eq_toNat (b := d) (by omega)]

/-- Four bytes read as one character: after `F0` the value is at least U+10000, after `F4`
    at most U+10FFFF. -/
theorem encodeChar_ofNat_four {b c d e : UInt8} (hb : 0xF0 ≤ b.toNat ∧ b.toNat ≤ 0xF4)
    (hc : 0x80 ≤ c.toNat ∧ c.toNat ≤ 0xBF) (hF0 : b.toNat = 0xF0 → 0x90 ≤ c.toNat)
    (hF4 : b.toNat = 0xF4 → c.toNat ≤ 0x8F) (hd : 0x80 ≤ d.toNat ∧ d.toNat ≤ 0xBF)
    (he : 0x80 ≤ e.toNat ∧ e.toNat ≤ 0xBF) :
    encodeChar (Char.ofNat (payload b 0x08 * 0x40000 + payload c 0x40 * 0x1000 +
      payload d 0x40 * 0x40 + payload e 0x40)) = [b, c, d, e] := by
  unfold encodeChar payload
  dsimp only
  rw [toNat_ofNat_of_valid (.inr (by omega)), if_neg (by omega), if_neg (by omega),
    if_neg (by omega), toUInt8_of_eq_toNat (b := b) (by omega), toUInt8_of_eq_toNat (b := c) (by omega),
    toUInt8_of_eq_toNat (b := d) (by omega), toUInt8_of_eq_toNat (b := e) (by omega)]

theorem toNat_of_isContinuation {c : UInt8} (h : isContinuation c = true) :
    0x80 ≤ c.toNat ∧ c.toNat ≤ 0xBF := by
  simpa only [isContinuation, Bool.and_eq_true, decide_eq_true_eq, UInt8.le_iff_toNat_le,
    UInt8.reduceToNat] using h

theorem toNat_of_secondOfThree {b c : UInt8} (h : secondOfThree b c = true) :
    (0x80 ≤ c.toNat ∧ c.toNat ≤ 0xBF) ∧ (b.toNat = 0xE0 → 0xA0 ≤ c.toNat) ∧
      (b.toNat = 0xED → c.toNat ≤ 0x9F) := by
  unfold secondOfThree isContinuation at h
  split_ifs at h <;>
    simp only [← UInt8.toNat_inj, UInt8.le_iff_toNat_le, UInt8.reduceToNat, Bool.and_eq_true,
      decide_eq_true_eq] at * <;>
    omega

theorem toNat_of_secondOfFour {b c : UInt8} (h : secondOfFour b c = true) :
    (0x80 ≤ c.toNat ∧ c.toNat ≤ 0xBF) ∧ (b.toNat = 0xF0 → 0x90 ≤ c.toNat) ∧
      (b.toNat = 0xF4 → c.toNat ≤ 0x8F) := by
  unfold secondOfFour isContinuation at h
  split_ifs at h <;>
    simp only [← UInt8.toNat_inj, UInt8.le_iff_toNat_le, UInt8.reduceToNat, Bool.and_eq_true,
      decide_eq_true_eq] at * <;>
    omega

/-- Bytes whose front reads as a character begin with that character's bytes. -/
theorem eq_encodeChar_of_step {bytes : List UInt8} {c : Char} {w : Nat}
    (h : step bytes = some (.scalar c w)) : bytes = encodeChar c ++ bytes.drop w := by
  unfold step at h
  repeat' split at h
  all_goals try (cases h; done)
  -- What is left are the four widths of a character, each read from its lead byte on.
  · rename_i b rest hb
    obtain ⟨rfl, rfl⟩ := Step.scalar.inj (Option.some.inj h)
    rw [encodeChar_ofNat_one (UInt8.lt_iff_toNat_lt.1 hb)]
    rfl
  · rename_i b _ hlead _ c₁ tail hc₁
    obtain ⟨rfl, rfl⟩ := Step.scalar.inj (Option.some.inj h)
    simp only [Bool.and_eq_true, decide_eq_true_eq, UInt8.le_iff_toNat_le, UInt8.reduceToNat]
      at hlead
    rw [encodeChar_ofNat_two hlead (toNat_of_isContinuation hc₁)]
    rfl
  · rename_i b _ _ hlead _ c₁ hc₁ _ c₂ tail hc₂
    obtain ⟨rfl, rfl⟩ := Step.scalar.inj (Option.some.inj h)
    simp only [Bool.and_eq_true, decide_eq_true_eq, UInt8.le_iff_toNat_le, UInt8.reduceToNat]
      at hlead
    obtain ⟨hc₁, hE0, hED⟩ := toNat_of_secondOfThree hc₁
    rw [encodeChar_ofNat_three hlead hc₁ hE0 hED (toNat_of_isContinuation hc₂)]
    rfl
  · rename_i b _ _ _ hlead _ c₁ hc₁ _ c₂ hc₂ _ c₃ tail hc₃
    obtain ⟨rfl, rfl⟩ := Step.scalar.inj (Option.some.inj h)
    simp only [Bool.and_eq_true, decide_eq_true_eq, UInt8.le_iff_toNat_le, UInt8.reduceToNat]
      at hlead
    obtain ⟨hc₁, hF0, hF4⟩ := toNat_of_secondOfFour hc₁
    rw [encodeChar_ofNat_four hlead hc₁ hF0 hF4 (toNat_of_isContinuation hc₂)
      (toNat_of_isContinuation hc₃)]
    rfl

/-- Some bytes always read as something. -/
theorem step_cons_ne_none (b : UInt8) (rest : List UInt8) : step (b :: rest) ≠ none := by
  simp only [step]
  repeat' split
  all_goals exact Option.some_ne_none _

/-- Strict reading that succeeds reads, after what was read before, characters whose bytes are
    the bytes read, given a step of fuel for each byte. The induction is on the fuel: each step
    reads one character and drops its bytes. -/
theorem flatMap_encodeChar_of_validateFrom : ∀ (fuel : Nat) (bytes : List UInt8) (index : Nat)
    (acc s : String), bytes.length ≤ fuel → validateFrom fuel bytes index acc = .ok s →
      ∃ cs : List Char, s = acc ++ String.ofList cs ∧ cs.flatMap encodeChar = bytes
  | 0, bytes, _, acc, s, hlen, h => by
    obtain rfl : bytes = [] := List.eq_nil_of_length_eq_zero (by omega)
    cases h
    exact ⟨[], by simp, rfl⟩
  | fuel + 1, bytes, index, acc, s, hlen, h => by
    unfold validateFrom at h
    rcases hstep : step bytes with _ | ⟨c, w⟩ | len | _
    · -- Nothing is read only from no bytes.
      rw [hstep] at h
      cases h
      cases bytes with
      | nil => exact ⟨[], by simp, rfl⟩
      | cons b rest => exact absurd hstep (step_cons_ne_none b rest)
    · rw [hstep] at h
      have hbytes := eq_encodeChar_of_step hstep
      have hw : (bytes.drop w).length ≤ fuel := by
        have hlen' := congrArg List.length hbytes
        have := one_le_length_encodeChar c
        rw [List.length_append] at hlen'
        omega
      obtain ⟨cs, rfl, hcs⟩ := flatMap_encodeChar_of_validateFrom fuel _ _ _ _ hw h
      refine ⟨c :: cs, ?_, ?_⟩
      · apply String.toList_inj.mp
        simp
      · rw [List.flatMap_cons, hcs]
        exact hbytes.symm
    · rw [hstep] at h
      cases h
    · rw [hstep] at h
      cases h

/-- Bytes that read strictly as a text are the bytes of that text. -/
theorem encode_of_validate {bytes : List UInt8} {s : String} (h : validate bytes = .ok s) :
    encode s = bytes := by
  obtain ⟨cs, rfl, hcs⟩ := flatMap_encodeChar_of_validateFrom _ bytes 0 "" s (Nat.le_refl _) h
  simpa [encode] using hcs

/-- Strict reading gives a text exactly from the bytes of that text. -/
theorem validate_eq_ok_iff {bytes : List UInt8} {s : String} :
    validate bytes = .ok s ↔ bytes = encode s :=
  ⟨fun h => (encode_of_validate h).symm, fun h => h ▸ validate_encode s⟩

/-! ### Lossy reading of well-formed bytes -/

/-- Where strict reading gives a text, lossy reading gives the same: the two read each
    scalar value alike and differ only at an ill-formed or cut sequence. -/
theorem decodeLossyFrom_of_validateFrom {s : String} :
    ∀ {fuel : Nat} {bytes : List UInt8} {index : Nat} {acc : String},
      validateFrom fuel bytes index acc = .ok s → decodeLossyFrom fuel bytes acc = s
  | 0, _, _, _, h => by simpa [validateFrom, decodeLossyFrom] using h
  | fuel + 1, bytes, index, acc, h => by
    rw [validateFrom] at h
    rw [decodeLossyFrom]
    rcases hs : step bytes with _ | ⟨c, width⟩ | len | _ <;> rw [hs] at h
    · simpa using h
    · exact decodeLossyFrom_of_validateFrom h
    · cases h
    · cases h

/-- Lossy reading of the bytes of a text gives the text. -/
theorem decodeLossy_encode (s : String) : decodeLossy (encode s) = s :=
  decodeLossyFrom_of_validateFrom (validate_encode s)

/-! ### Joined texts -/

theorem encode_append (s t : String) : encode (s ++ t) = encode s ++ encode t := by
  simp [encode]

theorem encode_intercalate (sep : String) :
    ∀ (l : List String), encode (sep.intercalate l) = (encode sep).intercalate (l.map encode)
  | [] => rfl
  | [s] => by simp
  | s :: t :: l => by
    rw [String.intercalate_cons_cons, encode_append, encode_append, encode_intercalate sep (t :: l)]
    simp [List.intercalate_cons_cons]

/-- An ASCII text is written one byte a character. -/
theorem encode_ofList_of_ascii : ∀ {cs : List Char}, (∀ c ∈ cs, c.toNat < 128) →
    encode (String.ofList cs) = cs.map (·.toNat.toUInt8)
  | [], _ => rfl
  | c :: cs, h => by
    have hc : encodeChar c = [c.toNat.toUInt8] := by
      simp [encodeChar, h c List.mem_cons_self]
    have ih := encode_ofList_of_ascii (fun x hx => h x (List.mem_cons_of_mem c hx))
    simp only [encode, String.toList_ofList, List.flatMap_cons, List.map_cons] at ih ⊢
    rw [hc, ih]
    rfl

/-- Every byte of a character past ASCII is at least 128. -/
theorem le_toNat_of_mem_encodeChar {c : Char} {b : UInt8} (hc : 128 ≤ c.toNat)
    (hb : b ∈ encodeChar c) : 128 ≤ b.toNat := by
  have hv := toNat_valid c
  unfold encodeChar at hb
  dsimp only at hb
  split_ifs at hb with h₁ h₂ h₃
  · omega
  all_goals
    simp only [List.mem_cons, List.not_mem_nil, or_false] at hb
    rcases hb with rfl | rfl | rfl | rfl <;> simp <;> omega

end Utf8

end FeatureFlags
