import Mathlib
import FeatureFlags.Flag.Entity
import FeatureFlags.Proofs.Text.Utf8

/-!
# Reading back what was written: the bytes of a value

The writer's text of a value holds no blank, so a reader that skips blanks stops at once, and
each piece of a value is read by looking at the byte in front of it. This module states what
the readers of the lexical layer do on the bytes the writer gives: they read exactly those
bytes, whatever follows them, and return what was written.

Reading is stated with `JsonReader.Takes r bytes v tail d`: from any cursor at least `d`
deep whose bytes are `bytes` then `tail`, the reader `r` returns `v` and stops just before
`tail`, as deep as it started. It composes along `>>=`, so each reader is taken apart into
the readers it calls, in the order of the bytes.

* `JsonReader.Takes.expectLiteral`: the rest of a literal;
* `JsonReader.Takes.readString`: a string written by `Json.quote`, after its opening quote;
* `JsonReader.Takes.within`: the inside of an array or object and its closing bracket.
-/

namespace FeatureFlags

namespace Cursor

theorem advance_of_cons {c : Cursor} {b : UInt8} {rest : List UInt8} (h : c.rest = b :: rest) :
    c.advance.rest = rest ∧ c.advance.depth = c.depth := by
  simp only [advance, h]
  split <;> exact ⟨rfl, rfl⟩

theorem advanceBy_of_append {bytes tail : List UInt8} :
    ∀ {c : Cursor}, c.rest = bytes ++ tail →
      (c.advanceBy bytes.length).rest = tail ∧ (c.advanceBy bytes.length).depth = c.depth := by
  induction bytes with
  | nil => exact fun h => ⟨h, rfl⟩
  | cons b bytes ih =>
    intro c h
    obtain ⟨hrest, hdepth⟩ := advance_of_cons h
    obtain ⟨hrest', hdepth'⟩ := ih hrest
    exact ⟨hrest', hdepth'.trans hdepth⟩

/-- Blanks are skipped only when there is one in front. -/
theorem skipBlanks_of_head {c : Cursor} (h : ∀ b ∈ c.rest.head?, isBlank b = false) :
    c.skipBlanks = c := by
  unfold skipBlanks
  cases hrest : c.rest with
  | nil => cases c; cases hrest; rfl
  | cons b rest =>
    simp only [hrest, List.length_cons, skipBlanks.go]
    rw [if_neg (by simpa [hrest] using h)]

end Cursor

namespace JsonReader

variable {α β : Type}

/-! ### Runs -/

theorem run_bind (x : JsonReader α) (f : α → JsonReader β) (c : Cursor) :
    (x >>= f).run.run c =
      match x.run.run c with
      | (.ok a, c') => (f a).run.run c'
      | (.error e, c') => (.error e, c') := by
  rw [ExceptT.run_bind, StateT.run_bind]
  rcases x.run.run c with ⟨_ | a, c'⟩ <;> rfl

theorem run_bind_of_ok {x : JsonReader α} {f : α → JsonReader β} {c c' : Cursor} {a : α}
    (h : x.run.run c = (.ok a, c')) : (x >>= f).run.run c = (f a).run.run c' := by
  rw [run_bind, h]

theorem run_peek (c : Cursor) : peek.run.run c = (.ok c.rest.head?, c) := rfl

theorem run_peekAfterBlanks (c : Cursor) :
    peekAfterBlanks.run.run c = (.ok c.skipBlanks.rest.head?, c.skipBlanks) := rfl

theorem run_eat (c : Cursor) : eat.run.run c = (.ok (), c.advance) := rfl

theorem run_next (c : Cursor) : next.run.run c = (.ok c.rest.head?, c.advance) := rfl

theorem run_get (c : Cursor) : (get : JsonReader Cursor).run.run c = (.ok c, c) := rfl

theorem run_eatN (n : Nat) (c : Cursor) : (eatN n).run.run c = (.ok (), c.advanceBy n) := rfl

/-- A reader that succeeds is not placed again. -/
theorem run_placed_of_ok {r : JsonReader α} {c c' : Cursor} {a : α}
    (h : r.run.run c = (.ok a, c')) : (placed r).run.run c = (.ok a, c') := by
  simp only [placed, ExceptT.run_tryCatch, StateT.run_bind, h]
  rfl

theorem run_attempt_of_ok {r : JsonReader α} {c c' : Cursor} {a : α}
    (h : r.run.run c = (.ok a, c')) : (attempt r).run.run c = (.ok (.ok a), c') := by
  simp only [attempt, ExceptT.run_tryCatch, StateT.run_bind]
  rw [run_bind_of_ok h]
  rfl

/-! ### Reading the bytes at the front -/

/-- `r` reads `v` from a cursor at least `d` deep whose bytes are `bytes` then `tail`: it
    stops just before `tail`, as deep as it started. -/
def Takes (r : JsonReader α) (bytes : List UInt8) (v : α) (tail : List UInt8) (d : Nat) :
    Prop :=
  ∀ c : Cursor, c.rest = bytes ++ tail → d ≤ c.depth →
    ∃ c', r.run.run c = (.ok v, c') ∧ c'.rest = tail ∧ c'.depth = c.depth

namespace Takes

variable {r : JsonReader α} {f : α → JsonReader β} {bytes b₁ b₂ tail : List UInt8} {a : α}
  {v : β} {d : Nat}

theorem pure (a : α) (tail : List UInt8) (d : Nat) : Takes (Pure.pure a) [] a tail d :=
  fun c hc _ => ⟨c, rfl, hc, rfl⟩

theorem mono {d' : Nat} (h : Takes r bytes a tail d) (hd : d ≤ d') : Takes r bytes a tail d' :=
  fun c hc hc' => h c hc (Nat.le_trans hd hc')

/-- Two readers in a row read the bytes of the first, then those of the second. -/
theorem bind (h₁ : Takes r b₁ a (b₂ ++ tail) d) (h₂ : Takes (f a) b₂ v tail d) :
    Takes (r >>= f) (b₁ ++ b₂) v tail d := by
  intro c hc hd
  obtain ⟨c₁, hrun₁, hrest₁, hdepth₁⟩ := h₁ c (by rw [hc, List.append_assoc]) hd
  obtain ⟨c₂, hrun₂, hrest₂, hdepth₂⟩ := h₂ c₁ hrest₁ (hdepth₁ ▸ hd)
  exact ⟨c₂, by rw [run_bind_of_ok hrun₁, hrun₂], hrest₂, hdepth₂.trans hdepth₁⟩

/-- A reader followed by one that reads nothing more. -/
theorem bind_nil (h₁ : Takes r bytes a tail d) (h₂ : Takes (f a) [] v tail d) :
    Takes (r >>= f) bytes v tail d := by
  simpa only [List.append_nil] using (h₁.bind h₂ : Takes (r >>= f) (bytes ++ []) v tail d)

theorem eat (b : UInt8) (tail : List UInt8) (d : Nat) : Takes JsonReader.eat [b] () tail d := by
  intro c hc _
  obtain ⟨hrest, hdepth⟩ := Cursor.advance_of_cons hc
  exact ⟨c.advance, run_eat c, hrest, hdepth⟩

theorem next (b : UInt8) (tail : List UInt8) (d : Nat) :
    Takes JsonReader.next [b] (some b) tail d := by
  intro c hc _
  obtain ⟨hrest, hdepth⟩ := Cursor.advance_of_cons hc
  exact ⟨c.advance, by rw [run_next, hc]; rfl, hrest, hdepth⟩

theorem eatN (bytes tail : List UInt8) (d : Nat) :
    Takes (JsonReader.eatN bytes.length) bytes () tail d := by
  intro c hc _
  obtain ⟨hrest, hdepth⟩ := Cursor.advanceBy_of_append hc
  exact ⟨_, run_eatN _ c, hrest, hdepth⟩

/-- A reader that looks at the next byte reads on as that byte tells it. -/
theorem peek_bind {f : Option UInt8 → JsonReader β} {o : Option UInt8}
    (hb : (bytes ++ tail).head? = o) (h : Takes (f o) bytes v tail d) :
    Takes (peek >>= f) bytes v tail d := by
  intro c hc hd
  rw [run_bind_of_ok (run_peek c), hc, hb]
  exact h c hc hd

/-- Looking past blanks at a byte that is none looks at that byte. -/
theorem peekAfterBlanks_bind {f : Option UInt8 → JsonReader β} {b : UInt8}
    (hb : (bytes ++ tail).head? = some b) (hblank : Cursor.isBlank b = false)
    (h : Takes (f (some b)) bytes v tail d) : Takes (peekAfterBlanks >>= f) bytes v tail d := by
  intro c hc hd
  have hskip : c.skipBlanks = c := Cursor.skipBlanks_of_head (by simp [hc, hb, hblank])
  rw [run_bind_of_ok (run_peekAfterBlanks c), hskip, hc, hb]
  exact h c hc hd

/-- A reader that takes the next byte reads on as that byte tells it. -/
theorem next_bind {f : Option UInt8 → JsonReader β} {b : UInt8} {bs : List UInt8}
    (h : Takes (f (some b)) bs v tail d) : Takes (JsonReader.next >>= f) (b :: bs) v tail d :=
  (Takes.next b (bs ++ tail) d).bind h

/-- A reader that looks at the cursor reads on as the cursor tells it. -/
theorem get_bind {f : Cursor → JsonReader β}
    (h : ∀ c : Cursor, c.rest = bytes ++ tail → Takes (f c) bytes v tail d) :
    Takes (get >>= f) bytes v tail d := by
  intro c hc hd
  rw [run_bind_of_ok (run_get c)]
  exact h c hc c hc hd

theorem placed (h : Takes r bytes a tail d) : Takes (JsonReader.placed r) bytes a tail d := by
  intro c hc hd
  obtain ⟨c', hrun, hrest, hdepth⟩ := h c hc hd
  exact ⟨c', run_placed_of_ok hrun, hrest, hdepth⟩

end Takes

/-! ### Literals -/

theorem Takes.expectLiteral (bs tail : List UInt8) (d : Nat) :
    Takes (JsonReader.expectLiteral bs) bs () tail d := by
  induction bs with
  | nil => exact Takes.pure () tail d
  | cons b bs ih =>
    rw [JsonReader.expectLiteral]
    refine (Takes.next b (bs ++ tail) d).bind ?_
    simpa using ih

/-! ### Strings -/

/-- Whether a byte can stand in a string as itself: no quote, backslash or control byte. -/
def PlainByte (b : UInt8) : Prop := (b = 34 || b = 92 || b < 0x20) = false

/-- A run of plain bytes is read at once. -/
theorem plainRun_append {xs : List UInt8} (h : ∀ b ∈ xs, PlainByte b) (ys : List UInt8) (n : Nat) :
    plainRun (xs ++ ys) n = plainRun ys (n + xs.length) := by
  induction xs generalizing n with
  | nil => rfl
  | cons b xs ih =>
    rw [List.cons_append, plainRun, if_neg (by simpa [PlainByte] using h b List.mem_cons_self),
      ih (fun b hb => h b (List.mem_cons_of_mem _ hb))]
    congr 1
    simp only [List.length_cons]
    omega

theorem plainRun_quote (ys : List UInt8) (n : Nat) : plainRun (34 :: ys) n = n := by
  simp [plainRun]

theorem plainRun_backslash (ys : List UInt8) (n : Nat) : plainRun (92 :: ys) n = n := by
  simp [plainRun]

end JsonReader

namespace Json

/-- Whether a character is written as itself inside a string: no quote, backslash or control
    character. -/
def Plain (c : Char) : Prop := c ≠ '"' ∧ c ≠ '\\' ∧ 0x20 ≤ c.toNat

/-- The bytes of characters as `quote` writes them between its quotes. -/
def escapedBytes (cs : List Char) : List UInt8 := cs.flatMap fun c => Utf8.encode (escapeChar c)

theorem escapedBytes_cons (c : Char) (cs : List Char) :
    escapedBytes (c :: cs) = Utf8.encode (escapeChar c) ++ escapedBytes cs :=
  List.flatMap_cons

theorem encode_foldl_escapeChar (cs : List Char) (init : String) :
    Utf8.encode (cs.foldl (fun acc c => acc ++ escapeChar c) init) =
      Utf8.encode init ++ escapedBytes cs := by
  induction cs generalizing init with
  | nil => simp [escapedBytes]
  | cons c cs ih => rw [List.foldl_cons, ih, Utf8.encode_append, escapedBytes_cons, List.append_assoc]

/-- A quoted string is its escaped characters between two quote bytes. -/
theorem encode_quote (s : String) : Utf8.encode (quote s) = 34 :: escapedBytes s.toList ++ [34] := by
  rw [quote, Utf8.encode_append, String.foldl_eq_foldl_toList, encode_foldl_escapeChar]
  rfl

theorem escapeChar_of_plain {c : Char} (h : Plain c) : escapeChar c = String.singleton c := by
  obtain ⟨hq, hb, hc⟩ := h
  unfold escapeChar
  split
  · exact absurd rfl hq
  · exact absurd rfl hb
  case h_8 => rw [if_neg (by omega)]
  -- The other escaped characters are control characters.
  all_goals exact absurd hc (by decide)

/-- A plain character is written as its own bytes. -/
theorem encode_escapeChar_of_plain {c : Char} (h : Plain c) :
    Utf8.encode (escapeChar c) = Utf8.encodeChar c := by
  simp [escapeChar_of_plain h, Utf8.encode]

/-- The bytes of a plain character stand in a string as themselves. -/
theorem plainByte_of_mem_encodeChar {c : Char} (h : Plain c) {b : UInt8}
    (hb : b ∈ Utf8.encodeChar c) : JsonReader.PlainByte b := by
  obtain ⟨hq, hbs, hc⟩ := h
  by_cases hascii : c.toNat < 128
  · -- An ASCII character is one byte, its code.
    have hone : Utf8.encodeChar c = [c.toNat.toUInt8] := by simp [Utf8.encodeChar, hascii]
    rw [hone, List.mem_singleton] at hb
    have hbyte : b.toNat = c.toNat := by rw [hb]; exact Utf8.toNat_toUInt8_of_lt (by omega)
    have h34 : c.toNat ≠ 34 := fun h => hq (Char.toNat_inj.1 h)
    have h92 : c.toNat ≠ 92 := fun h => hbs (Char.toNat_inj.1 h)
    simp only [JsonReader.PlainByte, Bool.or_eq_false_iff, decide_eq_false_iff_not,
      UInt8.lt_iff_toNat_lt, ← UInt8.toNat_inj, hbyte]
    simp only [UInt8.reduceToNat]
    omega
  · have hbig := Utf8.le_toNat_of_mem_encodeChar (by omega) hb
    simp only [JsonReader.PlainByte, Bool.or_eq_false_iff, decide_eq_false_iff_not,
      UInt8.lt_iff_toNat_lt, ← UInt8.toNat_inj]
    simp only [UInt8.reduceToNat]
    omega

theorem toNat_digit_lt {k : Nat} (hk : k < 16) : (Hex.digit k).toNat < 128 := by
  interval_cases k <;> decide

/-- A control character other than those with a short escape is written `\\u00` and two
    hexadecimal digits. -/
theorem encode_escapeChar_control {c : Char} (hc : c.toNat < 0x20) (h₁ : c ≠ '\n')
    (h₂ : c ≠ '\x0d') (h₃ : c ≠ '\t') (h₄ : c ≠ '\x08') (h₅ : c ≠ '\x0c') :
    Utf8.encode (escapeChar c) = [92, 117, 48, 48, (Hex.digit (c.toNat / 16)).toNat.toUInt8,
      (Hex.digit (c.toNat % 16)).toNat.toUInt8] := by
  have hq : c ≠ '"' := fun h => by rw [h] at hc; exact absurd hc (by decide)
  have hb : c ≠ '\\' := fun h => by rw [h] at hc; exact absurd hc (by decide)
  have hesc : escapeChar c =
      "\\u00" ++ String.ofList [Hex.digit (c.toNat / 16), Hex.digit (c.toNat % 16)] := by
    unfold escapeChar
    split
    case h_8 => rw [if_pos hc]
    -- A character with a short escape is none of these.
    all_goals contradiction
  have hdigits : ∀ d ∈ [Hex.digit (c.toNat / 16), Hex.digit (c.toNat % 16)], d.toNat < 128 := by
    simp only [List.mem_cons, List.not_mem_nil, or_false, forall_eq_or_imp, forall_eq]
    exact ⟨toNat_digit_lt (by omega), toNat_digit_lt (by omega)⟩
  rw [hesc, Utf8.encode_append, Utf8.encode_ofList_of_ascii hdigits]
  rfl

end Json

namespace JsonReader

/-- A lowercase hexadecimal digit reads as its value. -/
theorem hexValue?_digit {k : Nat} (hk : k < 16) :
    hexValue? (Hex.digit k).toNat.toUInt8 = some k := by
  interval_cases k <;> decide

theorem Takes.readHexQuad {a b c e : UInt8} {x y z w : Nat} (ha : hexValue? a = some x)
    (hb : hexValue? b = some y) (hc : hexValue? c = some z) (he : hexValue? e = some w)
    (tail : List UInt8) (d : Nat) :
    Takes JsonReader.readHexQuad [a, b, c, e] (((x * 16 + y) * 16 + z) * 16 + w) tail d := by
  intro cur hcur _
  obtain ⟨hrest, hdepth⟩ := Cursor.advanceBy_of_append hcur
  refine ⟨cur.advanceBy 4, ?_, hrest, hdepth⟩
  rw [JsonReader.readHexQuad, run_bind_of_ok (run_get cur)]
  simp only [hcur, List.cons_append]
  rw [run_bind_of_ok (run_eatN 4 cur)]
  simp only [ha, hb, hc, he]
  rfl

/-- The escape of a control character: `u00` and its two hexadecimal digits. -/
theorem Takes.readUnicodeEscape_control {n : Nat} (hn : n < 0x20) (tail : List UInt8) (d : Nat) :
    Takes JsonReader.readUnicodeEscape
      [48, 48, (Hex.digit (n / 16)).toNat.toUInt8, (Hex.digit (n % 16)).toNat.toUInt8]
      (scalarBytes n) tail d := by
  have hquad := Takes.readHexQuad (hexValue?_digit (k := 0) (by omega))
    (hexValue?_digit (k := 0) (by omega)) (hexValue?_digit (k := n / 16) (by omega))
    (hexValue?_digit (k := n % 16) (by omega)) tail d
  have hn' : ((0 * 16 + 0) * 16 + n / 16) * 16 + n % 16 = n := by omega
  rw [hn'] at hquad
  have hdigit : (Hex.digit 0).toNat.toUInt8 = 48 := by decide
  rw [hdigit] at hquad
  rw [JsonReader.readUnicodeEscape, ← List.append_nil [48, 48, _, _]]
  refine hquad.bind ?_
  -- A control character is no surrogate.
  rw [if_neg (by simp; omega), if_pos (by simp; omega)]
  exact Takes.pure _ tail d

/-- A character that is not written as itself is written as a backslash and an escape, which
    reads back as the character's bytes. -/
theorem Takes.readEscape_escapeChar {c : Char} (h : ¬Json.Plain c) :
    ∃ body, Utf8.encode (Json.escapeChar c) = 92 :: body ∧
      ∀ tail d, Takes JsonReader.readEscape body (Utf8.encodeChar c) tail d := by
  have hcases : c = '"' ∨ c = '\\' ∨ c.toNat < 0x20 := by
    simp only [Json.Plain, not_and_or, not_not, not_le] at h
    tauto
  -- A short escape is one byte after the backslash, which reads back as the character.
  by_cases hq : c = '"'
  · subst hq
    refine ⟨[34], by decide, fun tail d => ?_⟩
    rw [JsonReader.readEscape]
    exact Takes.next_bind (Takes.pure [34] tail d)
  by_cases hb : c = '\\'
  · subst hb
    refine ⟨[92], by decide, fun tail d => ?_⟩
    rw [JsonReader.readEscape]
    exact Takes.next_bind (Takes.pure [92] tail d)
  have hc : c.toNat < 0x20 := by tauto
  by_cases h₁ : c = '\n'
  · subst h₁
    refine ⟨[110], by decide, fun tail d => ?_⟩
    rw [JsonReader.readEscape]
    exact Takes.next_bind (Takes.pure [10] tail d)
  by_cases h₂ : c = '\x0d'
  · subst h₂
    refine ⟨[114], by decide, fun tail d => ?_⟩
    rw [JsonReader.readEscape]
    exact Takes.next_bind (Takes.pure [13] tail d)
  by_cases h₃ : c = '\t'
  · subst h₃
    refine ⟨[116], by decide, fun tail d => ?_⟩
    rw [JsonReader.readEscape]
    exact Takes.next_bind (Takes.pure [9] tail d)
  by_cases h₄ : c = '\x08'
  · subst h₄
    refine ⟨[98], by decide, fun tail d => ?_⟩
    rw [JsonReader.readEscape]
    exact Takes.next_bind (Takes.pure [8] tail d)
  by_cases h₅ : c = '\x0c'
  · subst h₅
    refine ⟨[102], by decide, fun tail d => ?_⟩
    rw [JsonReader.readEscape]
    exact Takes.next_bind (Takes.pure [12] tail d)
  -- Any other control character: `u00` and two hexadecimal digits.
  refine ⟨_, Json.encode_escapeChar_control hc h₁ h₂ h₃ h₄ h₅, fun tail d => ?_⟩
  have hchar : scalarBytes c.toNat = Utf8.encodeChar c := by
    rw [scalarBytes, Char.ofNat_toNat]
  rw [JsonReader.readEscape, ← hchar]
  exact Takes.next_bind (Takes.readUnicodeEscape_control hc tail d)

/-! ### The characters of a string -/

/-- Every character is written as at least one byte. -/
theorem Json.length_le_length_escapedBytes (cs : List Char) :
    cs.length ≤ (Json.escapedBytes cs).length := by
  induction cs with
  | nil => exact Nat.le_refl 0
  | cons c cs ih =>
    have hone : 1 ≤ (Utf8.encode (Json.escapeChar c)).length := by
      by_cases hc : Json.Plain c
      · rw [Json.encode_escapeChar_of_plain hc]
        exact Utf8.one_le_length_encodeChar c
      · obtain ⟨body, hbody, -⟩ := Takes.readEscape_escapeChar hc
        simp [hbody]
    rw [Json.escapedBytes_cons, List.length_append, List.length_cons]
    omega

/-- The closing quote after a run of plain bytes ends the string. -/
theorem Takes.readStringFrom_quote {pre : List UInt8} (hpre : ∀ b ∈ pre, PlainByte b)
    (fuel : Nat) (acc tail : List UInt8) (d : Nat) :
    Takes (readStringFrom (fuel + 1) acc) (pre ++ [34]) (pre.reverse ++ acc) tail d := by
  rw [readStringFrom]
  refine Takes.get_bind fun c hc => ?_
  simp only [hc, List.append_assoc, List.singleton_append, plainRun_append hpre, plainRun_quote,
    Nat.zero_add, List.take_left']
  refine (Takes.eatN pre _ d).bind (Takes.peek_bind rfl ?_)
  exact (Takes.eat 34 ([] ++ tail) d).bind (Takes.pure _ tail d)

/-- A backslash after a run of plain bytes starts an escape, after which the string goes on
    with the character's bytes read. -/
theorem Takes.readStringFrom_escape {pre : List UInt8} (hpre : ∀ b ∈ pre, PlainByte b)
    {c : Char} (hc : ¬Json.Plain c) {fuel : Nat} {acc rest tail : List UInt8} {v : List UInt8}
    {d : Nat}
    (h : Takes (readStringFrom fuel ((Utf8.encodeChar c).reverse ++ pre.reverse ++ acc)) rest v
      tail d) :
    Takes (readStringFrom (fuel + 1) acc) (pre ++ Utf8.encode (Json.escapeChar c) ++ rest) v
      tail d := by
  obtain ⟨body, hbody, hread⟩ := Takes.readEscape_escapeChar hc
  rw [readStringFrom, hbody]
  refine Takes.get_bind fun c hc => ?_
  simp only [hc, List.append_assoc, List.cons_append, plainRun_append hpre, plainRun_backslash,
    Nat.zero_add, List.take_left']
  refine (Takes.eatN pre _ d).bind (Takes.peek_bind rfl ?_)
  refine (Takes.eat 92 _ d).bind ?_
  refine (hread _ d).bind ?_
  simpa only [List.append_assoc] using h

/-- The escaped characters of a string, after some plain bytes and up to the closing quote,
    are read as the bytes of the characters; by induction on the characters, with a step of
    fuel for each escape and one for the quote. -/
theorem Takes.readStringFrom_chars (tail : List UInt8) (d : Nat) (cs : List Char) :
    ∀ (pre : List UInt8), (∀ b ∈ pre, PlainByte b) → ∀ (fuel : Nat) (acc : List UInt8),
      cs.length < fuel →
      Takes (readStringFrom fuel acc) (pre ++ Json.escapedBytes cs ++ [34])
        ((cs.flatMap Utf8.encodeChar).reverse ++ pre.reverse ++ acc) tail d := by
  induction cs with
  | nil =>
    intro pre hpre fuel acc hfuel
    obtain ⟨fuel, rfl⟩ : ∃ f, fuel = f + 1 := ⟨fuel - 1, by simp only [List.length_nil] at hfuel; omega⟩
    simpa [Json.escapedBytes] using Takes.readStringFrom_quote hpre fuel acc tail d
  | cons c cs ih =>
    intro pre hpre fuel acc hfuel
    rw [Json.escapedBytes_cons]
    by_cases hc : Json.Plain c
    · -- A plain character joins the run of plain bytes.
      have hrun : ∀ b ∈ pre ++ Utf8.encodeChar c, PlainByte b := by
        intro b hb
        rcases List.mem_append.1 hb with hb | hb
        · exact hpre b hb
        · exact Json.plainByte_of_mem_encodeChar hc hb
      have h := ih (pre ++ Utf8.encodeChar c) hrun fuel acc (by simp at hfuel; omega)
      rw [Json.encode_escapeChar_of_plain hc]
      simpa [List.flatMap_cons, List.reverse_append, List.append_assoc] using h
    · obtain ⟨fuel, rfl⟩ : ∃ f, fuel = f + 1 := ⟨fuel - 1, by simp at hfuel; omega⟩
      have h := ih [] (fun _ hb => absurd hb List.not_mem_nil) fuel
        ((Utf8.encodeChar c).reverse ++ pre.reverse ++ acc) (by simp at hfuel; omega)
      simp only [List.append_assoc]
      rw [← List.append_assoc pre]
      refine Takes.readStringFrom_escape hpre hc ?_
      simpa [List.flatMap_cons, List.reverse_append, List.append_assoc] using h

/-- A string written by `Json.quote` is read back, after its opening quote, up to and with its
    closing quote. -/
theorem Takes.readString (s : String) (tail : List UInt8) (d : Nat) :
    Takes JsonReader.readString (Json.escapedBytes s.toList ++ [34]) s tail d := by
  rw [JsonReader.readString]
  refine Takes.get_bind fun c hc => ?_
  rw [hc]
  -- A step of fuel for each character and one for the quote: the bytes are enough.
  have hfuel : s.toList.length < (Json.escapedBytes s.toList ++ [34] ++ tail).length + 1 := by
    have := Json.length_le_length_escapedBytes s.toList
    simp only [List.length_append, List.length_singleton]
    omega
  have hchars := Takes.readStringFrom_chars tail d s.toList [] (fun _ hb => absurd hb List.not_mem_nil)
    _ [] hfuel
  rw [List.nil_append] at hchars
  refine hchars.bind_nil ?_
  simp only [List.reverse_nil, List.append_nil, List.reverse_reverse]
  rw [show s.toList.flatMap Utf8.encodeChar = Utf8.encode s from rfl, Utf8.validate_encode]
  exact Takes.pure s tail d

/-! ### Keys, separators and brackets -/

/-- An object key is read from its opening quote to its closing one. -/
theorem Takes.readKey (k : String) (tail : List UInt8) (d : Nat) :
    Takes JsonShape.readKey (Utf8.encode (Json.quote k)) k tail d := by
  rw [JsonShape.readKey, Json.encode_quote]
  exact (Takes.eat 34 _ d).bind (Takes.readString k tail d)

theorem Takes.readColon (tail : List UInt8) (d : Nat) : Takes JsonShape.readColon [58] () tail d :=
  Takes.peekAfterBlanks_bind rfl (by decide) (Takes.eat 58 tail d)

/-- The first key of an object is there at its quote, read nothing. -/
theorem Takes.hasNextKey_first (rest : List UInt8) (d : Nat) :
    Takes (JsonShape.hasNextKey true) [] true (34 :: rest) d :=
  Takes.peekAfterBlanks_bind rfl (by decide) (Takes.pure true _ d)

/-- A later key follows its comma. -/
theorem Takes.hasNextKey_comma (rest : List UInt8) (d : Nat) :
    Takes (JsonShape.hasNextKey false) [44] true (34 :: rest) d :=
  Takes.peekAfterBlanks_bind rfl (by decide)
    ((Takes.eat 44 _ d).bind (Takes.peekAfterBlanks_bind rfl (by decide) (Takes.pure true _ d)))

/-- A closing brace ends the keys, and is left for the end of the object. -/
theorem Takes.hasNextKey_close (first : Bool) (rest : List UInt8) (d : Nat) :
    Takes (JsonShape.hasNextKey first) [] false (125 :: rest) d :=
  Takes.peekAfterBlanks_bind rfl (by decide) (Takes.pure false _ d)

/-- The first item of an array is there at its first byte, read nothing. -/
theorem Takes.hasNextItem_first {b : UInt8} (hb : b ≠ 93) (hblank : Cursor.isBlank b = false)
    (rest : List UInt8) (d : Nat) : Takes (JsonShape.hasNextItem true) [] true (b :: rest) d := by
  refine Takes.peekAfterBlanks_bind rfl hblank ?_
  split
  · contradiction
  · exact absurd (Option.some.inj ‹_›) hb
  all_goals exact Takes.pure true _ d

/-- A later item follows its comma. -/
theorem Takes.hasNextItem_comma {b : UInt8} (hb : b ≠ 93) (hblank : Cursor.isBlank b = false)
    (rest : List UInt8) (d : Nat) : Takes (JsonShape.hasNextItem false) [44] true (b :: rest) d := by
  refine Takes.peekAfterBlanks_bind rfl (by decide) ((Takes.eat 44 _ d).bind ?_)
  refine Takes.peekAfterBlanks_bind rfl hblank ?_
  split
  · exact absurd (Option.some.inj ‹_›) hb
  · exact Takes.pure true _ d
  · contradiction

/-- A closing bracket ends the items, and is left for the end of the array. -/
theorem Takes.hasNextItem_close (first : Bool) (rest : List UInt8) (d : Nat) :
    Takes (JsonShape.hasNextItem first) [] false (93 :: rest) d :=
  Takes.peekAfterBlanks_bind rfl (by decide) (Takes.pure false _ d)

theorem Takes.closeObject (tail : List UInt8) (d : Nat) :
    Takes JsonShape.closeObject [125] () tail d :=
  Takes.peekAfterBlanks_bind rfl (by decide) (Takes.eat 125 tail d)

theorem Takes.closeList (tail : List UInt8) (d : Nat) : Takes JsonShape.closeList [93] () tail d :=
  Takes.peekAfterBlanks_bind rfl (by decide) (Takes.eat 93 tail d)

/-! ### Nesting -/

theorem run_enter {c : Cursor} (h : c.depth - 1 ≠ 0) :
    JsonShape.enter.run.run c = (.ok (), { c with depth := c.depth - 1 }.advance) := by
  simp only [JsonShape.enter, run_bind_of_ok (run_get c), if_neg h]
  rfl

theorem run_leave (c : Cursor) :
    JsonShape.leave.run.run c = (.ok (), { c with depth := c.depth + 1 }) := rfl

/-- An array or object is read by reading its inside one level deeper, then its end: it takes
    its opening bracket, its inside and its end, and returns what the inside gave. -/
theorem Takes.within {body : JsonReader α} {close : JsonReader Unit} {o : UInt8}
    {inside closing tail : List UInt8} {v : α} {d : Nat}
    (hbody : Takes body inside v (closing ++ tail) d) (hclose : Takes close closing () tail (d + 1))
    (hd : 1 ≤ d) : Takes (JsonShape.within body close) (o :: inside ++ closing) v tail (d + 1) := by
  intro c hc hdepth
  have hopen : { c with depth := c.depth - 1 }.rest = o :: (inside ++ closing ++ tail) := by
    simp [hc]
  obtain ⟨hrest₁, hdepth₁⟩ := Cursor.advance_of_cons hopen
  -- The inside is read one level deeper; leaving it restores the depth.
  obtain ⟨c₂, hrun₂, hrest₂, hdepth₂⟩ :=
    hbody _ (by rw [hrest₁, List.append_assoc]) (by rw [hdepth₁]; dsimp only; omega)
  have hinner : c₂.depth = c.depth - 1 := by rw [hdepth₂, hdepth₁]
  obtain ⟨c₃, hrun₃, hrest₃, hdepth₃⟩ :=
    hclose { c₂ with depth := c₂.depth + 1 } hrest₂ (by dsimp only; omega)
  refine ⟨c₃, ?_, hrest₃, ?_⟩
  · rw [JsonShape.within, run_bind_of_ok (run_enter (by omega)),
      run_bind_of_ok (run_attempt_of_ok hrun₂), run_bind_of_ok (run_leave c₂),
      run_bind_of_ok (run_attempt_of_ok hrun₃)]
    rfl
  · rw [hdepth₃]
    dsimp only
    omega

end JsonReader

end FeatureFlags
