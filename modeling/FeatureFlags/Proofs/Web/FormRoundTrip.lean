import Mathlib.Tactic.IntervalCases
import FeatureFlags.Proofs.Text.Utf8
import FeatureFlags.Web.Percent

/-!
# Form encoding reads back

Form encoding writes each byte of a text's UTF-8 as characters of its own
(`Form.encodeByte`): a letter, digit or one of `*-._` as itself, a space as `+`, and any
other byte as `%` and two uppercase hexadecimal digits. Every such character is ASCII and
none of them is `&`, `=` or `?`. So the written pairs split back at `&` and at the first
`=` into the written names and values, and each of these reads back: `+` becomes a space
(no byte is written as a literal `+`), the escapes become their bytes, and the bytes are
the UTF-8 of the text.

* `Form.decodeComponent_encode`: a written text reads back as the text;
* `Form.parse_serialize`: parsing written pairs gives the pairs, in order;
* `Form.question_not_mem_serialize`: written pairs hold no `?`.
-/

namespace FeatureFlags

/-! ## Joined lists -/

theorem List.mem_of_mem_intercalate {α : Type} {x : α} {sep : List α} :
    ∀ {xs : List (List α)}, x ∈ sep.intercalate xs → x ∈ sep ∨ ∃ l ∈ xs, x ∈ l
  | [], h => by simp at h
  | [l], h => .inr ⟨l, List.mem_singleton_self l, by simpa using h⟩
  | l :: l' :: xs, h => by
    rw [List.intercalate_cons_cons] at h
    rcases List.mem_append.1 h with h | h
    · rcases List.mem_append.1 h with h | h
      · exact .inr ⟨l, List.mem_cons_self, h⟩
      · exact .inl h
    · rcases List.mem_of_mem_intercalate h with h | ⟨m, hm, h⟩
      · exact .inl h
      · exact .inr ⟨m, List.mem_cons_of_mem _ hm, h⟩

namespace Percent

theorem decodeFrom_cons_of_ne {b : UInt8} (h : b ≠ 37) (rest acc : List UInt8) :
    decodeFrom (b :: rest) acc = decodeFrom rest (b :: acc) := by
  match rest with
  | [] => simp [decodeFrom]
  | [_] => simp [decodeFrom]
  | _ :: _ :: _ => rw [decodeFrom]; simp [h]

/-- An uppercase hexadecimal digit is ASCII, and neither `&`, `+`, `=` nor `?`. -/
theorem toNat_upperDigit {n : Nat} (h : n < 16) :
    (upperDigit n).toNat < 128 ∧ (upperDigit n).toNat ≠ 38 ∧ (upperDigit n).toNat ≠ 43 ∧
      (upperDigit n).toNat ≠ 61 ∧ (upperDigit n).toNat ≠ 63 := by
  interval_cases n <;> decide

theorem value?_upperDigit {n : Nat} (h : n < 16) :
    Hex.value? (Char.ofNat (upperDigit n).toNat.toUInt8.toNat) = some n := by
  interval_cases n <;> decide

end Percent

namespace Form

/-- The characters a byte is written as. -/
def encodeByte (b : UInt8) : List Char :=
  if unchanged b then [Char.ofNat b.toNat] else if b = 32 then ['+'] else Percent.escape b

/-- A plus read as a space. -/
def plusToSpace (b : UInt8) : UInt8 := if b = 43 then 32 else b

theorem encode_eq (s : String) :
    encode s = String.ofList ((Utf8.encode s).flatMap encodeByte) := rfl

theorem decodeComponent_eq (bytes : List UInt8) :
    decodeComponent bytes = Utf8.decodeLossy (Percent.decode (bytes.map plusToSpace)) := rfl

/-! ## The characters of one byte -/

theorem toNat_of_unchanged {b : UInt8} (h : unchanged b = true) :
    b.toNat < 128 ∧ b.toNat ≠ 37 ∧ b.toNat ≠ 38 ∧ b.toNat ≠ 43 ∧ b.toNat ≠ 61 ∧
      b.toNat ≠ 63 := by
  simp only [unchanged, Bool.or_eq_true, Bool.and_eq_true, decide_eq_true_eq,
    UInt8.le_iff_toNat_le, UInt8.ext_iff] at h
  simp at h
  omega

/-- Every character that writes a byte is ASCII, and none is `&`, `=` or `?`. -/
theorem toNat_of_mem_encodeByte {b : UInt8} {c : Char} (hc : c ∈ encodeByte b) :
    c.toNat < 128 ∧ c.toNat ≠ 38 ∧ c.toNat ≠ 61 ∧ c.toNat ≠ 63 := by
  unfold encodeByte at hc
  split_ifs at hc with hu h32
  · have hb := toNat_of_unchanged hu
    simp only [List.mem_singleton] at hc
    subst hc
    rw [Utf8.toNat_ofNat_of_valid (by omega)]
    omega
  · simp only [List.mem_singleton] at hc
    subst hc
    decide
  · have hhi := Percent.toNat_upperDigit (show b.toNat / 16 < 16 by have := b.toNat_lt; omega)
    have hlo := Percent.toNat_upperDigit (show b.toNat % 16 < 16 by omega)
    simp only [Percent.escape, List.mem_cons, List.not_mem_nil, or_false] at hc
    rcases hc with rfl | rfl | rfl
    · decide
    · omega
    · omega

/-- The bytes of the form encoding of a text: those of the characters each of its bytes is
    written as. -/
theorem utf8_encode (s : String) :
    Utf8.encode (encode s) =
      (Utf8.encode s).flatMap fun b => (encodeByte b).map (·.toNat.toUInt8) := by
  rw [encode_eq, Utf8.encode_ofList_of_ascii, List.map_flatMap]
  intro c hc
  obtain ⟨b, -, hb⟩ := List.mem_flatMap.1 hc
  exact (toNat_of_mem_encodeByte hb).1

/-- Reading back the bytes a byte is written as gives the byte. -/
theorem decodeFrom_encodeByte (b : UInt8) (rest acc : List UInt8) :
    Percent.decodeFrom (((encodeByte b).map (·.toNat.toUInt8)).map plusToSpace ++ rest) acc =
      Percent.decodeFrom rest (b :: acc) := by
  unfold encodeByte
  split_ifs with hu h32
  · -- a byte that stands as itself is neither `%` nor `+`
    have hb := toNat_of_unchanged hu
    have hbyte : (Char.ofNat b.toNat).toNat.toUInt8 = b := by
      rw [Utf8.toNat_ofNat_of_valid (by omega)]
      simp
    have hplus : plusToSpace b = b := if_neg (by simp [UInt8.ext_iff]; omega)
    simp only [List.map_cons, List.map_nil, hbyte, hplus, List.cons_append, List.nil_append]
    exact Percent.decodeFrom_cons_of_ne (by simp [UInt8.ext_iff]; omega) rest acc
  · subst h32
    exact Percent.decodeFrom_cons_of_ne (by decide) rest acc
  · -- an escape: its digits are no `+`, so they reach the percent decoder unchanged
    have hhi : b.toNat / 16 < 16 := by have := b.toNat_lt; omega
    have hlo : b.toNat % 16 < 16 := by omega
    have hplus : ∀ n, n < 16 → plusToSpace (Percent.upperDigit n).toNat.toUInt8 =
        (Percent.upperDigit n).toNat.toUInt8 := by
      intro n hn
      have hd := Percent.toNat_upperDigit hn
      exact if_neg (by simp [UInt8.ext_iff]; omega)
    have h37 : plusToSpace (Char.toNat '%').toUInt8 = 37 := by decide
    simp only [Percent.escape, List.map_cons, List.map_nil, List.cons_append, List.nil_append]
    rw [hplus _ hhi, hplus _ hlo, h37, Percent.decodeFrom]
    simp only [if_true, Percent.value?_upperDigit hhi, Percent.value?_upperDigit hlo]
    have hb : (b.toNat / 16 * 16 + b.toNat % 16).toUInt8 = b := by
      rw [show b.toNat / 16 * 16 + b.toNat % 16 = b.toNat by omega]
      simp
    rw [hb]

/-! ## Texts -/

/-- Reading back the bytes some bytes are written as gives those bytes. -/
theorem decodeFrom_flatMap_encodeByte (rest : List UInt8) :
    ∀ (bytes acc : List UInt8),
      Percent.decodeFrom
          (((bytes.flatMap fun b => (encodeByte b).map (·.toNat.toUInt8)).map plusToSpace) ++
            rest) acc =
        Percent.decodeFrom rest (bytes.reverse ++ acc)
  | [], acc => rfl
  | b :: bytes, acc => by
    rw [List.flatMap_cons, List.map_append, List.append_assoc, decodeFrom_encodeByte,
      decodeFrom_flatMap_encodeByte rest bytes]
    simp

/-- A form-encoded text reads back as the text. -/
theorem decodeComponent_encode (s : String) : decodeComponent (Utf8.encode (encode s)) = s := by
  have h := decodeFrom_flatMap_encodeByte [] (Utf8.encode s) []
  rw [List.append_nil, List.append_nil] at h
  rw [decodeComponent_eq, utf8_encode, Percent.decode, h]
  simp [Percent.decodeFrom, Utf8.decodeLossy_encode]

/-- No byte of a form-encoded text is `&` or `=`. -/
theorem separators_not_mem_encode {s : String} {b : UInt8} (h : b ∈ Utf8.encode (encode s)) :
    b ≠ 38 ∧ b ≠ 61 := by
  rw [utf8_encode] at h
  obtain ⟨x, -, hx⟩ := List.mem_flatMap.1 h
  obtain ⟨c, hc, rfl⟩ := List.mem_map.1 hx
  have hb := toNat_of_mem_encodeByte hc
  simp only [ne_eq, UInt8.ext_iff]
  simp
  omega

/-- No character of a form-encoded text is `?`. -/
theorem question_not_mem_encode (s : String) : '?' ∉ (encode s).toList := by
  intro h
  rw [encode_eq, String.toList_ofList] at h
  obtain ⟨b, -, hb⟩ := List.mem_flatMap.1 h
  exact (toNat_of_mem_encodeByte hb).2.2.2 rfl

/-! ## Pairs -/

/-- The bytes of a written pair. -/
def pairBytes (p : String × String) : List UInt8 :=
  Utf8.encode (encode p.1) ++ 61 :: Utf8.encode (encode p.2)

theorem utf8_serialize (pairs : List (String × String)) :
    Utf8.encode (serialize pairs) = [38].intercalate (pairs.map pairBytes) := by
  have hamp : Utf8.encode "&" = [38] := by decide
  have heq : Utf8.encode "=" = [61] := by decide
  rw [serialize, Utf8.encode_intercalate, List.map_map, hamp]
  refine congrArg _ (List.map_congr_left ?_)
  rintro ⟨k, v⟩ -
  simp [Utf8.encode_append, heq, pairBytes]

theorem amp_not_mem_pairBytes (p : String × String) : (38 : UInt8) ∉ pairBytes p := by
  intro h
  rcases List.mem_append.1 h with h | h
  · exact (separators_not_mem_encode h).1 rfl
  · rcases List.mem_cons.1 h with h | h
    · cases h
    · exact (separators_not_mem_encode h).1 rfl

/-- A written pair splits at its first `=` into its written name and value. -/
theorem takeWhile_pairBytes (p : String × String) :
    (pairBytes p).takeWhile (fun b => decide (b ≠ 61)) = Utf8.encode (encode p.1) := by
  have h : ∀ b ∈ Utf8.encode (encode p.1), decide (b ≠ 61) = true := fun b hb => by
    simpa using (separators_not_mem_encode hb).2
  rw [pairBytes, List.takeWhile_append_of_pos h]
  simp

theorem dropWhile_pairBytes (p : String × String) :
    ((pairBytes p).dropWhile (fun b => decide (b ≠ 61))).drop 1 = Utf8.encode (encode p.2) := by
  have h : ∀ b ∈ Utf8.encode (encode p.1), decide (b ≠ 61) = true := fun b hb => by
    simpa using (separators_not_mem_encode hb).2
  rw [pairBytes, List.dropWhile_append_of_pos h]
  simp

/-- Form encoding reads back: parsing written pairs gives the pairs, in order. -/
theorem parse_serialize (pairs : List (String × String)) : parse (serialize pairs) = pairs := by
  cases pairs with
  | nil => rfl
  | cons p ps =>
    -- the written pairs hold no `&` and none is empty, so splitting at `&` gives them back
    have hsep : ∀ l ∈ (p :: ps).map pairBytes, (38 : UInt8) ∉ l := by
      intro l hl
      obtain ⟨q, -, rfl⟩ := List.mem_map.1 hl
      exact amp_not_mem_pairBytes q
    have hsplit := List.splitOn_intercalate (38 : UInt8) hsep (by simp)
    have hkept : ((p :: ps).map pairBytes).filter (fun l => !l.isEmpty) =
        (p :: ps).map pairBytes := by
      apply List.filter_eq_self.2
      intro l hl
      obtain ⟨q, -, rfl⟩ := List.mem_map.1 hl
      simp [pairBytes]
    simp only [parse]
    rw [utf8_serialize, hsplit, hkept, List.map_map]
    conv_rhs => rw [← List.map_id (p :: ps)]
    apply List.map_congr_left
    rintro ⟨k, v⟩ -
    simp only [Function.comp, id]
    rw [takeWhile_pairBytes, dropWhile_pairBytes, decodeComponent_encode, decodeComponent_encode]

example : parse (serialize [("a b", "x&y=z"), ("é", "")]) = [("a b", "x&y=z"), ("é", "")] := by
  decide +kernel

/-- No character of written pairs is `?`. -/
theorem question_not_mem_serialize (pairs : List (String × String)) :
    '?' ∉ (serialize pairs).toList := by
  intro h
  rw [serialize, String.toList_intercalate] at h
  rcases List.mem_of_mem_intercalate h with h | ⟨l, hl, h⟩
  · simp at h
  · rw [List.map_map] at hl
    obtain ⟨⟨k, v⟩, -, rfl⟩ := List.mem_map.1 hl
    simp only [Function.comp_apply, String.toList_append, List.mem_append] at h
    rcases h with (h | h) | h
    · exact question_not_mem_encode k h
    · simp at h
    · exact question_not_mem_encode v h

end Form

end FeatureFlags
