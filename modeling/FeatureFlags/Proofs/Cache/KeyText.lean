import FeatureFlags.Cache.Key

/-!
# Key texts

Every key the client makes is a key text: thirty-two lowercase hexadecimal digits, the
sixteen bytes of an MD5 digest written two digits each. A key text is ASCII, so it takes
one byte per character: every key counts 32 bytes in the size of a record.

* `CacheKey.isKeyText_ofRequest`: the key of every request is a key text;
* `CacheKey.byteLength_ofRequest`: it is 32 bytes long in UTF-8.
-/

namespace FeatureFlags

namespace Md5

theorem length_littleEndian (x n : Nat) : (littleEndian x n).length = n := by
  induction n generalizing x with
  | zero => rfl
  | succ n ih => simp [littleEndian, ih]

/-- A digest is sixteen bytes, whatever the message. -/
theorem length_digest (msg : List UInt8) : (digest msg).length = 16 := by
  simp [digest, length_littleEndian]

end Md5

namespace Hex

/-- Every value below sixteen is written by a lowercase digit. -/
theorem isLowerDigit_digit : ∀ n < 16, isLowerDigit (digit n) = true := by decide

/-- Two digits a byte. -/
theorem length_encode (bytes : List UInt8) : (encode bytes).length = 2 * bytes.length := by
  induction bytes with
  | nil => rfl
  | cons b bytes ih =>
    simp only [encode, String.length_ofList, List.flatMap_cons, List.length_append] at ih ⊢
    simp [ih, byteDigits]
    omega

/-- The text of some bytes has only lowercase digits. -/
theorem isLowerDigit_of_mem_encode {bytes : List UInt8} {c : Char}
    (h : c ∈ (encode bytes).toList) : isLowerDigit c = true := by
  simp only [encode, String.toList_ofList, List.mem_flatMap, byteDigits, List.mem_cons,
    List.not_mem_nil, or_false] at h
  obtain ⟨b, -, rfl | rfl⟩ := h
  · exact isLowerDigit_digit _ (by have := b.toNat_lt; omega)
  · exact isLowerDigit_digit _ (Nat.mod_lt _ (by decide))

/-- A lowercase digit is an ASCII character. -/
theorem toNat_lt_of_isLowerDigit {c : Char} (h : isLowerDigit c = true) : c.toNat < 128 := by
  simp only [isLowerDigit, Bool.or_eq_true, Bool.and_eq_true, decide_eq_true_eq,
    Char.le_def] at h
  rcases h with ⟨-, h⟩ | ⟨-, h⟩ <;> rw [UInt32.le_iff_toNat_le] at h <;> simp at h <;> omega

end Hex

namespace Utf8

/-- ASCII characters are one byte each. -/
theorem length_flatMap_encodeChar {cs : List Char} (h : ∀ c ∈ cs, c.toNat < 128) :
    (cs.flatMap encodeChar).length = cs.length := by
  induction cs with
  | nil => rfl
  | cons c cs ih =>
    have hc := h c (List.mem_cons_self ..)
    simp [encodeChar, hc, ih fun d hd => h d (List.mem_cons_of_mem _ hd)]

end Utf8

namespace CacheKey

/-- The key of every request is a key text. -/
theorem isKeyText_ofRequest (method : String) (u : Url) :
    isKeyText (ofRequest method u).text = true := by
  simp only [isKeyText, ofRequest, Md5.hexDigest, Hex.length_encode, Md5.length_digest,
    Bool.and_eq_true, decide_eq_true_eq, List.all_eq_true]
  exact ⟨trivial, fun c hc => Hex.isLowerDigit_of_mem_encode hc⟩

/-- A key text is 32 bytes long. -/
theorem byteLength_of_isKeyText {s : String} (h : isKeyText s = true) :
    Utf8.byteLength s = 32 := by
  simp only [isKeyText, Bool.and_eq_true, decide_eq_true_eq, List.all_eq_true] at h
  rw [Utf8.byteLength, Utf8.encode,
    Utf8.length_flatMap_encodeChar fun c hc => Hex.toNat_lt_of_isLowerDigit (h.2 c hc),
    String.length_toList, h.1]

/-- A key read from a text is that text, and the text is a key text. -/
theorem ofHex?_eq_some {text : String} {key : CacheKey} (h : ofHex? text = some key) :
    key = ⟨text⟩ ∧ isKeyText text = true := by
  unfold ofHex? at h
  split at h
  · exact ⟨(Option.some.inj h).symm, ‹_›⟩
  · cases h

/-- The key of every request is 32 bytes long. -/
theorem byteLength_ofRequest (method : String) (u : Url) :
    Utf8.byteLength (ofRequest method u).text = 32 :=
  byteLength_of_isKeyText (isKeyText_ofRequest method u)

end CacheKey

end FeatureFlags
