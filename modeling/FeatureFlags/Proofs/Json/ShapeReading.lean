import Mathlib
import FeatureFlags.Proofs.Json.IntegerText

/-!
# Reading back what was written: values by shape

The text of a value, read by a shape, gives a value again, built the way the shape builds it.
`JsonReader.ReadsAs shape j j' extra nesting` says so for one value: its text is read by
`shape` as `j'` in front of anything that may follow a value, with fuel from twice the length
of the text and `extra` more, and from any cursor more than `nesting` deep. It depends on `j`
only through its text.

Each piece of a shape has its rule, and the rules compose as the shapes do:

* scalars read as themselves: an integer in the range of 64 bits, a boolean, a string,
  `null` for an optional value; a value of any shape as itself too, a double through the text
  it is written as (`Json.ReadsBack`), and a double with no text, written `null`, as `null`;
* an optional value that is not written `null` reads as its inner shape reads it;
* an object reads as a record when its keys are fields of the record, none of them twice
  and no field without a default left out: as the fields given, in declaration order
  (`JsonReader.readsAs_record`), which are the fields written when they were written in that
  order (`JsonShape.inOrder_reverse`);
* an array reads as a list item by item (`JsonReader.readsAs_list`).

A text whose value reads as `j'` is parsed as `j'` (`JsonReader.parse_of_readsAs`): the fuel a
whole text is given, eight times its length and sixteen, is enough for every rule above.
-/

namespace FeatureFlags

namespace JsonReader

/-- The text of `j` is read by `shape` as `j'`: with fuel at least twice the length of the text
    and `extra` more, from any cursor more than `nesting` deep, in front of anything that may
    follow a value. -/
def ReadsAs (shape : JsonShape) (j j' : Json) (extra nesting : Nat) : Prop :=
  ∀ fuel tail, 2 * (Utf8.encode j.render).length + extra ≤ fuel → AfterValue tail →
    Takes (JsonShape.readBy fuel shape) (Utf8.encode j.render) j' tail (nesting + 1)

namespace ReadsAs

variable {shape : JsonShape} {j j₁ j' : Json} {e n : Nat}

theorem mono {e' n' : Nat} (h : ReadsAs shape j j' e n) (he : e ≤ e') (hn : n ≤ n') :
    ReadsAs shape j j' e' n' :=
  fun fuel tail hf hT => (h fuel tail (by omega) hT).mono (by omega)

/-- Only the text of a value is read. -/
theorem of_render_eq (h : ReadsAs shape j j' e n) (hj : Json.render j = Json.render j₁) :
    ReadsAs shape j₁ j' e n := by
  unfold ReadsAs
  rw [← hj]
  exact h

end ReadsAs

theorem encode_render_null : Utf8.encode (Json.render .null) = 110 :: ull := rfl

theorem encode_render_true : Utf8.encode (Json.render (.bool true)) = 116 :: rue := rfl

theorem encode_render_false : Utf8.encode (Json.render (.bool false)) = 102 :: alse := rfl

theorem encode_render_string (s : String) :
    Utf8.encode (Json.render (.string s)) = 34 :: Json.escapedBytes s.toList ++ [34] := by
  rw [Json.render, Json.encode_quote]

/-- A double with no text is written `null`. -/
theorem render_nonfinite {x : Float} (hx : (x.isNaN || x.isInf) = true) :
    Json.render (.number (.float x)) = Json.render .null := by
  simp only [Json.render, Json.numberText, Json.floatText, if_pos hx]

/-! ### Scalars -/

section Scalars

variable {tail : List UInt8} {d : Nat}

/-- A string, once its opening quote has been seen: the quote is stepped over, then the string
    read to its closing quote. -/
theorem Takes.quoted (s : String) :
    Takes (do JsonReader.eat; return Json.string (← JsonReader.readString))
      (34 :: Json.escapedBytes s.toList ++ [34]) (.string s) tail d :=
  (Takes.eat 34 _ d).bind ((Takes.readString s tail d).bind_nil (Takes.pure _ tail d))

/-- A literal, once its first byte has been seen: that byte is stepped over, then the rest
    matched. -/
theorem Takes.literal (b : UInt8) (bs : List UInt8) (v : Json) :
    Takes (do JsonReader.eat; JsonReader.expectLiteral bs; return v) (b :: bs) v tail d :=
  (Takes.eat b _ d).bind ((Takes.expectLiteral bs tail d).bind_nil (Takes.pure _ tail d))

end Scalars

theorem readsAs_integer {i : Int} (hlo : -2 ^ 63 ≤ i) (hhi : i < 2 ^ 63) :
    ReadsAs .integer (Json.ofInt i) (Json.ofInt i) 1 0 := by
  intro fuel tail hf hT
  obtain ⟨f, rfl⟩ : ∃ f, fuel = f + 1 := ⟨fuel - 1, by omega⟩
  exact Takes.readBy_ofInt hT 1 hlo hhi f

theorem readsAs_boolean (b : Bool) : ReadsAs .boolean (.bool b) (.bool b) 1 0 := by
  intro fuel tail hf _
  obtain ⟨f, rfl⟩ : ∃ f, fuel = f + 1 := ⟨fuel - 1, by omega⟩
  rw [JsonShape.readBy]
  cases b
  · rw [encode_render_false]
    refine Takes.placed (Takes.peekAfterBlanks_bind rfl (by decide) ?_)
    dsimp only
    rw [if_neg (by decide), if_pos rfl]
    exact Takes.literal 102 alse _
  · rw [encode_render_true]
    refine Takes.placed (Takes.peekAfterBlanks_bind rfl (by decide) ?_)
    dsimp only
    rw [if_pos rfl]
    exact Takes.literal 116 rue _

theorem readsAs_text (s : String) : ReadsAs .text (.string s) (.string s) 1 0 := by
  intro fuel tail hf _
  obtain ⟨f, rfl⟩ : ∃ f, fuel = f + 1 := ⟨fuel - 1, by omega⟩
  rw [JsonShape.readBy, encode_render_string]
  refine Takes.placed (Takes.peekAfterBlanks_bind rfl (by decide) ?_)
  dsimp only
  rw [if_pos rfl]
  exact Takes.quoted s

/-- An optional value written `null` reads as `null`. -/
theorem readsAs_null (inner : JsonShape) : ReadsAs (.optional inner) .null .null 1 0 := by
  intro fuel tail hf _
  obtain ⟨f, rfl⟩ : ∃ f, fuel = f + 1 := ⟨fuel - 1, by omega⟩
  rw [JsonShape.readBy, encode_render_null]
  refine Takes.placed (Takes.peekAfterBlanks_bind rfl (by decide) ?_)
  dsimp only
  rw [if_pos rfl]
  exact Takes.literal 110 ull _

/-- An optional value written otherwise than `null` reads as its inner shape reads it. -/
theorem ReadsAs.optional {inner : JsonShape} {j j' : Json} {e n : Nat} (h : ReadsAs inner j j' e n)
    {b : UInt8} {rest : List UInt8} (hbytes : Utf8.encode j.render = b :: rest) (hb : b ≠ 110)
    (hblank : Cursor.isBlank b = false) : ReadsAs (.optional inner) j j' (e + 1) n := by
  intro fuel tail hf hT
  obtain ⟨f, rfl⟩ : ∃ f, fuel = f + 1 := ⟨fuel - 1, by omega⟩
  have hinner := h f tail (by omega) hT
  rw [hbytes] at hinner ⊢
  rw [JsonShape.readBy]
  refine Takes.placed (Takes.peekAfterBlanks_bind rfl hblank ?_)
  dsimp only
  rw [if_neg hb]
  exact hinner

theorem readsAs_optional_text (s : String) : ReadsAs (.optional .text) (.string s) (.string s) 2 0 :=
  (readsAs_text s).optional (encode_render_string s) (by decide) (by decide)

theorem readsAs_optional_boolean (b : Bool) : ReadsAs (.optional .boolean) (.bool b) (.bool b) 2 0 := by
  cases b
  · exact (readsAs_boolean false).optional encode_render_false (by decide) (by decide)
  · exact (readsAs_boolean true).optional encode_render_true (by decide) (by decide)

/-! ### Values of any shape -/

/-- A value of any shape is read by the reader of any value, one call deeper. -/
theorem ReadsAs.dynamic {j j' : Json} {e n : Nat}
    (h : ∀ fuel tail, 2 * (Utf8.encode j.render).length + e ≤ fuel → AfterValue tail →
      Takes (JsonShape.readAny fuel) (Utf8.encode j.render) j' tail (n + 1))
    {b : UInt8} {rest : List UInt8} (hbytes : Utf8.encode j.render = b :: rest)
    (hblank : Cursor.isBlank b = false) : ReadsAs .dynamic j j' (e + 1) n := by
  intro fuel tail hf hT
  obtain ⟨f, rfl⟩ : ∃ f, fuel = f + 1 := ⟨fuel - 1, by omega⟩
  have hany := h f tail (by omega) hT
  rw [hbytes] at hany ⊢
  rw [JsonShape.readBy]
  exact Takes.placed (Takes.peekAfterBlanks_bind rfl hblank hany)

theorem readsAs_dynamic_null : ReadsAs .dynamic .null .null 2 0 := by
  refine ReadsAs.dynamic (fun fuel tail hf _ => ?_) encode_render_null (by decide)
  obtain ⟨f, rfl⟩ : ∃ f, fuel = f + 1 := ⟨fuel - 1, by omega⟩
  rw [JsonShape.readAny, encode_render_null]
  refine Takes.placed (Takes.peekAfterBlanks_bind rfl (by decide) ?_)
  exact Takes.literal 110 ull _

theorem readsAs_dynamic_bool (b : Bool) : ReadsAs .dynamic (.bool b) (.bool b) 2 0 := by
  cases b
  · refine ReadsAs.dynamic (fun fuel tail hf _ => ?_) encode_render_false (by decide)
    obtain ⟨f, rfl⟩ : ∃ f, fuel = f + 1 := ⟨fuel - 1, by omega⟩
    rw [JsonShape.readAny, encode_render_false]
    exact Takes.placed (Takes.peekAfterBlanks_bind rfl (by decide) (Takes.literal 102 alse _))
  · refine ReadsAs.dynamic (fun fuel tail hf _ => ?_) encode_render_true (by decide)
    obtain ⟨f, rfl⟩ : ∃ f, fuel = f + 1 := ⟨fuel - 1, by omega⟩
    rw [JsonShape.readAny, encode_render_true]
    exact Takes.placed (Takes.peekAfterBlanks_bind rfl (by decide) (Takes.literal 116 rue _))

theorem readsAs_dynamic_string (s : String) : ReadsAs .dynamic (.string s) (.string s) 2 0 := by
  refine ReadsAs.dynamic (fun fuel tail hf _ => ?_) (encode_render_string s) (by decide)
  obtain ⟨f, rfl⟩ : ∃ f, fuel = f + 1 := ⟨fuel - 1, by omega⟩
  rw [JsonShape.readAny, encode_render_string]
  exact Takes.placed (Takes.peekAfterBlanks_bind rfl (by decide) (Takes.quoted s))

/-- A double that reads back from its text is read as a number of the same value. -/
theorem readsAs_dynamic_float {x : Float} (h : Json.ReadsBack x) :
    ∃ m : JsonNumber, m.toFloat = x ∧ ReadsAs .dynamic (.number (.float x)) (.number m) 2 0 := by
  have htext : Utf8.encode (Json.render (.number (.float x))) = Utf8.encode (Json.floatText x) := by
    simp only [Json.render, Json.numberText]
  rcases readNumber_of_readsBack h with ⟨digits, m, hbytes, hm, hread⟩ | ⟨b, rest, m, hbytes, hdigit, hm, hread⟩
  · -- A minus, then the digits.
    refine ⟨m, hm, ReadsAs.dynamic (fun fuel tail hf hT => ?_) (htext.trans hbytes) (by decide)⟩
    obtain ⟨f, rfl⟩ : ∃ f, fuel = f + 1 := ⟨fuel - 1, by omega⟩
    rw [JsonShape.readAny, htext, hbytes]
    refine Takes.placed (Takes.peekAfterBlanks_bind rfl (by decide) ?_)
    exact (Takes.eat 45 _ _).bind ((hread tail _ hT).bind_nil (Takes.pure _ tail _))
  · -- A digit first: the reader of any value falls to its last case.
    refine ⟨m, hm, ReadsAs.dynamic (fun fuel tail hf hT => ?_) (htext.trans hbytes)
      (isBlank_of_isDigit hdigit)⟩
    obtain ⟨f, rfl⟩ : ∃ f, fuel = f + 1 := ⟨fuel - 1, by omega⟩
    rw [JsonShape.readAny, htext, hbytes]
    refine Takes.placed (Takes.peekAfterBlanks_bind rfl (isBlank_of_isDigit hdigit) ?_)
    split
    · exact absurd ‹some b = none› (Option.some_ne_none b)
    all_goals first
      | (rename_i heq; cases Option.some.inj heq; exact absurd hdigit (by decide))
      | skip
    rename_i heq
    cases Option.some.inj heq
    rw [if_pos hdigit]
    exact (hread tail _ hT).bind_nil (Takes.pure _ tail _)

/-- The text of a double that reads back starts with a minus or a digit. -/
theorem encode_render_float {x : Float} (h : Json.ReadsBack x) :
    ∃ b rest, Utf8.encode (Json.render (.number (.float x))) = b :: rest ∧ (b = 45 ∨ isDigit b = true) := by
  have htext : Utf8.encode (Json.render (.number (.float x))) = Utf8.encode (Json.floatText x) := by
    simp only [Json.render, Json.numberText]
  rw [htext]
  rcases readNumber_of_readsBack h with ⟨digits, -, hbytes, -⟩ | ⟨b, rest, -, hbytes, hdigit, -⟩
  · exact ⟨45, digits, hbytes, .inl rfl⟩
  · exact ⟨b, rest, hbytes, .inr hdigit⟩

/-- A double with no text reads as `null`. -/
theorem readsAs_dynamic_nonfinite {x : Float} (hx : (x.isNaN || x.isInf) = true) :
    ReadsAs .dynamic (.number (.float x)) .null 2 0 :=
  readsAs_dynamic_null.of_render_eq (render_nonfinite hx).symm

/-! ### Objects read as records -/

end JsonReader

namespace JsonShape

/-- Without a key twice, the last value of a key is its first. -/
theorem lookup_reverse {kvs : List (String × Json)} (hnd : (kvs.map Prod.fst).Nodup) (k : String) :
    kvs.reverse.lookup k = kvs.lookup k := by
  induction kvs with
  | nil => rfl
  | cons kv rest ih =>
    obtain ⟨a, b⟩ := kv
    rw [List.map_cons, List.nodup_cons] at hnd
    rw [List.reverse_cons, List.lookup_append, ih hnd.2]
    by_cases hk : k = a
    · subst hk
      have hnone : rest.lookup k = none :=
        List.lookup_eq_none_iff.2 fun p hp => bne_iff_ne.2 fun h => hnd.1 (List.mem_map.2 ⟨p, hp, h.symm⟩)
      simp [hnone]
    · have hne : (k == a) = false := beq_eq_false_iff_ne.2 hk
      simp [List.lookup_cons, hne]

/-- Fields written in declaration order, none twice, are given back as written, by any list of
    fields given that agrees with them on the names of the record. -/
theorem inOrder_of_sublist {present : List (String × Json)} :
    ∀ {fields : List (String × Bool × JsonShape)} {kvs : List (String × Json)},
      (kvs.map Prod.fst).Sublist (fields.map Prod.fst) → (fields.map Prod.fst).Nodup →
      (∀ f ∈ fields, present.lookup f.1 = kvs.lookup f.1) → inOrder present fields = kvs := by
  intro fields
  induction fields with
  | nil =>
    intro kvs hsub _ _
    rw [List.map_eq_nil_iff.1 (List.sublist_nil.1 hsub)]
    rfl
  | cons f fs ih =>
    intro kvs hsub hnd hp
    obtain ⟨name, defaulted, shape⟩ := f
    rw [List.map_cons, List.nodup_cons] at hnd
    have hp' : ∀ g ∈ fs, present.lookup g.1 = kvs.lookup g.1 :=
      fun g hg => hp g (List.mem_cons_of_mem _ hg)
    have hhead : present.lookup name = kvs.lookup name := hp _ List.mem_cons_self
    unfold inOrder at ih ⊢
    rw [List.filterMap_cons]
    dsimp only
    rw [hhead]
    cases kvs with
    | nil => exact ih (List.nil_sublist _) hnd.2 hp'
    | cons kv rest =>
      obtain ⟨k, v⟩ := kv
      by_cases hk : k = name
      · -- The first field written is this one; the others are among the later fields.
        subst hk
        rw [List.lookup_cons_self]
        refine congrArg _ (ih (List.cons_sublist_cons.1 hsub) hnd.2 fun g hg => ?_)
        have hne : (g.1 == k) = false :=
          beq_eq_false_iff_ne.2 fun h => hnd.1 (List.mem_map.2 ⟨g, hg, h⟩)
        rw [hp' g hg, List.lookup_cons, hne]
      · -- This field was not written: every field written is a later one.
        have hsub' := (List.sublist_cons_iff.1 hsub).resolve_right (by
          rintro ⟨r, hr, -⟩
          rw [List.map_cons] at hr
          exact hk (List.cons.inj hr).1)
        have hnone : ((k, v) :: rest).lookup name = none :=
          List.lookup_eq_none_iff.2 fun p hp => bne_iff_ne.2 fun h =>
            hnd.1 (hsub'.subset (List.mem_map.2 ⟨p, hp, h.symm⟩))
        rw [hnone]
        exact ih hsub' hnd.2 hp'

/-- Fields written in declaration order, none twice, and read back one by one, are put back in
    the order they were written. -/
theorem inOrder_reverse {fields : List (String × Bool × JsonShape)} {kvs : List (String × Json)}
    (hsub : (kvs.map Prod.fst).Sublist (fields.map Prod.fst)) (hnd : (fields.map Prod.fst).Nodup) :
    inOrder kvs.reverse fields = kvs :=
  inOrder_of_sublist hsub hnd fun f _ => lookup_reverse (hnd.sublist hsub) f.1

/-- No field is missing when every field not given has a default or is optional. -/
theorem firstMissing_eq_none {present : List (String × Json)} :
    ∀ {fields : List (String × Bool × JsonShape)},
      (∀ f ∈ fields, (present.lookup f.1).isSome ∨ f.2.1 = true ∨ ∃ s, f.2.2 = .optional s) →
      firstMissing present fields = none := by
  intro fields
  induction fields with
  | nil => exact fun _ => rfl
  | cons f fs ih =>
    intro h
    obtain ⟨name, defaulted, shape⟩ := f
    have hrest := ih fun g hg => h g (List.mem_cons_of_mem _ hg)
    -- The field is given, has a default, or is optional.
    rcases h _ List.mem_cons_self with hsome | hdefault | ⟨s, hs⟩
    · obtain ⟨v, hv⟩ := Option.isSome_iff_exists.1 hsome
      simp [firstMissing, hv, hrest]
    · dsimp only at hdefault
      subst hdefault
      simp [firstMissing, hrest]
    · dsimp only at hs
      subst hs
      simp [firstMissing, hrest]

end JsonShape

namespace JsonReader

/-- The bytes of a field of an object: its quoted key, a colon and its value. -/
def fieldBytes (kv : String × Json) : List UInt8 :=
  Utf8.encode (Json.quote kv.1) ++ 58 :: Utf8.encode kv.2.render

/-- The bytes of the fields of an object; `first` before the first of them, which has no comma
    in front. -/
def fieldsBytes : Bool → List (String × Json) → List UInt8
  | _, [] => []
  | first, kv :: rest => (if first then [] else [44]) ++ fieldBytes kv ++ fieldsBytes false rest

theorem encode_renderFields (kvs : List (String × Json)) :
    Utf8.encode (Json.renderFields kvs) = fieldsBytes true kvs := by
  induction kvs with
  | nil => rfl
  | cons kv rest ih =>
    obtain ⟨k, v⟩ := kv
    have hcolon : Utf8.encode ":" = [58] := rfl
    cases rest with
    | nil =>
      simp [Json.renderFields, fieldsBytes, fieldBytes, Utf8.encode_append, hcolon]
    | cons kv' rest' =>
      have hcomma : Utf8.encode "," = [44] := rfl
      rw [Json.renderFields.eq_3 k v (kv' :: rest') (by simp)]
      simp only [Utf8.encode_append, ih, fieldsBytes, fieldBytes, hcolon, hcomma]
      simp

theorem encode_render_object (kvs : List (String × Json)) :
    Utf8.encode (Json.render (.object kvs)) = 123 :: fieldsBytes true kvs ++ [125] := by
  rw [Json.render, Utf8.encode_append, Utf8.encode_append, encode_renderFields]
  rfl

/-- After a field's value comes a comma or the closing brace. -/
theorem afterValue_fieldsBytes (kvs : List (String × Json)) (tail : List UInt8) :
    AfterValue (fieldsBytes false kvs ++ 125 :: tail) := by
  cases kvs with
  | nil => simp [AfterValue, fieldsBytes]
  | cons kv rest => simp [AfterValue, fieldsBytes]

/-- A field written is a field of the record, and its value is read as the value read. -/
def FieldReadsAs (fields : List (String × Bool × JsonShape)) (e n : Nat) (kv kv' : String × Json) :
    Prop :=
  kv'.1 = kv.1 ∧ ∃ shape, JsonShape.fieldShape? fields kv.1 = some shape ∧ ReadsAs shape kv.2 kv'.2 e n

/-- The next key of an object, after its comma when it is not the first. -/
theorem Takes.hasNextKey_sep (first : Bool) {rest : List UInt8} (hrest : rest.head? = some 34)
    (d : Nat) : Takes (JsonShape.hasNextKey first) (if first then [] else [44]) true rest d := by
  obtain ⟨rest, rfl⟩ : ∃ r, rest = 34 :: r := List.head?_eq_some_iff.1 hrest |>.imp fun _ h => h
  cases first
  · exact Takes.hasNextKey_comma _ d
  · exact Takes.hasNextKey_first _ d

section Fields

variable {name : String} {fields : List (String × Bool × JsonShape)} {e n : Nat}
  {tail : List UInt8}

/-- The fields of an object are read one by one, each key a field not read before and each
    value read as its field's shape reads it; at the closing brace, with no field without a
    default missing, they are put in declaration order. -/
theorem Takes.readFields_of_forall₂ {kvs kvs' : List (String × Json)}
    (h : List.Forall₂ (FieldReadsAs fields e n) kvs kvs') :
    ∀ (first : Bool) (acc : List (String × Json)) (fuel : Nat),
      (kvs.map Prod.fst).Nodup → (∀ k ∈ kvs.map Prod.fst, acc.lookup k = none) →
      2 * (fieldsBytes first kvs).length + e + 1 ≤ fuel →
      JsonShape.firstMissing (kvs'.reverse ++ acc) fields = none →
      Takes (JsonShape.readFields fuel name fields first acc) (fieldsBytes first kvs)
        (JsonShape.inOrder (kvs'.reverse ++ acc) fields) (125 :: tail) (n + 1) := by
  induction h with
  | nil =>
    intro first acc fuel _ _ hf hmissing
    obtain ⟨f, rfl⟩ : ∃ f, fuel = f + 1 := ⟨fuel - 1, by omega⟩
    rw [List.reverse_nil, List.nil_append] at hmissing ⊢
    rw [JsonShape.readFields]
    refine (Takes.hasNextKey_close first tail _).bind_nil ?_
    rw [if_neg Bool.false_ne_true, hmissing]
    exact Takes.pure _ _ _
  | cons hkv hrest ih =>
    rename_i kv kv' kvs kvs'
    obtain ⟨k₀, v⟩ := kv
    obtain ⟨k, v'⟩ := kv'
    obtain ⟨hkey, shape, hshape, hread⟩ := hkv
    dsimp only at hkey hshape hread
    subst hkey
    intro first acc fuel hnd hacc hf hmissing
    obtain ⟨f, rfl⟩ : ∃ f, fuel = f + 1 := ⟨fuel - 1, by omega⟩
    rw [List.map_cons, List.nodup_cons] at hnd
    have hbytes : fieldsBytes first ((k, v) :: kvs) = (if first then [] else [44]) ++
        (Utf8.encode (Json.quote k) ++ ([58] ++ (Utf8.encode v.render ++ fieldsBytes false kvs))) := by
      simp [fieldsBytes, fieldBytes]
    rw [hbytes] at hf ⊢
    simp only [List.length_append, List.length_singleton] at hf
    -- The key is read for the first time: the accumulated fields lack it, and lack the later ones.
    have hnew : (acc.lookup k).isSome = false := by
      rw [hacc k List.mem_cons_self]
      rfl
    have hacc' : ∀ k₁ ∈ kvs.map Prod.fst, ((k, v') :: acc).lookup k₁ = none := by
      intro k₁ hk₁
      have hne : (k₁ == k) = false := by
        rw [beq_eq_false_iff_ne]
        rintro rfl
        exact hnd.1 hk₁
      rw [List.lookup_cons, hne]
      exact hacc k₁ (List.mem_cons_of_mem _ hk₁)
    rw [List.reverse_cons, List.append_assoc, List.singleton_append] at hmissing ⊢
    rw [JsonShape.readFields]
    refine (Takes.hasNextKey_sep first (by rw [Json.encode_quote]; rfl) _).bind ?_
    rw [if_pos rfl]
    refine (Takes.readKey k _ _).bind ?_
    rw [hshape]
    dsimp only
    rw [hnew]
    refine (Takes.readColon _ _).bind ?_
    refine (hread f _ (by omega) (afterValue_fieldsBytes kvs tail)).bind ?_
    exact ih false _ f hnd.2 hacc' (by omega) hmissing

end Fields

theorem keys_of_forall₂ {fields : List (String × Bool × JsonShape)} {e n : Nat}
    {kvs kvs' : List (String × Json)} (h : List.Forall₂ (FieldReadsAs fields e n) kvs kvs') :
    kvs'.map Prod.fst = kvs.map Prod.fst := by
  induction h with
  | nil => rfl
  | cons hkv _ ih => rw [List.map_cons, List.map_cons, hkv.1, ih]

/-- An object reads as a record when its keys are fields of the record, in declaration order and
    none twice, each value read as its field's shape reads it, and every field left out has a
    default or is optional: as the fields read, in the same order. -/
theorem readsAs_record {name : String} {fields : List (String × Bool × JsonShape)}
    {kvs kvs' : List (String × Json)} {e n : Nat} (h : List.Forall₂ (FieldReadsAs fields e n) kvs kvs')
    (hsub : (kvs.map Prod.fst).Sublist (fields.map Prod.fst)) (hnd : (fields.map Prod.fst).Nodup)
    (hleft : ∀ f ∈ fields, f.1 ∉ kvs.map Prod.fst → f.2.1 = true ∨ ∃ s, f.2.2 = .optional s) :
    ReadsAs (.record name fields) (.object kvs) (.object kvs') e (n + 1) := by
  have hkeys := keys_of_forall₂ h
  -- Every field is given, or may be left out.
  have hmissing : JsonShape.firstMissing (kvs'.reverse ++ []) fields = none := by
    rw [List.append_nil]
    refine JsonShape.firstMissing_eq_none fun f hf => ?_
    by_cases hk : f.1 ∈ kvs.map Prod.fst
    · rw [← hkeys] at hk
      obtain ⟨p, hp, hfp⟩ := List.mem_map.1 hk
      exact .inl (List.lookup_isSome_iff.2 ⟨p, List.mem_reverse.2 hp, by simp [hfp]⟩)
    · exact .inr (hleft f hf hk)
  have hvalue : JsonShape.inOrder (kvs'.reverse ++ []) fields = kvs' := by
    rw [List.append_nil]
    exact JsonShape.inOrder_reverse (hkeys ▸ hsub) hnd
  intro fuel tail hf _
  rw [encode_render_object] at hf ⊢
  simp only [List.length_cons, List.length_append] at hf
  obtain ⟨f, rfl⟩ : ∃ f, fuel = f + 1 := ⟨fuel - 1, by omega⟩
  have hfields : Takes (JsonShape.readFields f name fields true []) (fieldsBytes true kvs)
      (JsonShape.inOrder (kvs'.reverse ++ []) fields) (125 :: tail) (n + 1) :=
    Takes.readFields_of_forall₂ h true [] f (hnd.sublist hsub) (fun _ _ => rfl) (by omega) hmissing
  rw [hvalue] at hfields
  rw [JsonShape.readBy]
  refine Takes.placed (Takes.peekAfterBlanks_bind rfl (by decide) ?_)
  dsimp only
  rw [if_neg (by decide), if_pos rfl]
  exact Takes.within (hfields.bind_nil (Takes.pure _ _ _)) (Takes.closeObject tail _) (by omega)

/-- An object with every field of a record, in declaration order, reads as the record. -/
theorem readsAs_record_whole {name : String} {fields : List (String × Bool × JsonShape)}
    {kvs kvs' : List (String × Json)} {e n : Nat} (h : List.Forall₂ (FieldReadsAs fields e n) kvs kvs')
    (hkeys : kvs.map Prod.fst = fields.map Prod.fst) (hnd : (fields.map Prod.fst).Nodup) :
    ReadsAs (.record name fields) (.object kvs) (.object kvs') e (n + 1) := by
  refine readsAs_record h (hkeys ▸ List.Sublist.refl _) hnd fun f hf hgone => absurd ?_ hgone
  rw [hkeys]
  exact List.mem_map_of_mem hf

/-! ### Arrays read as lists -/

/-- The bytes of the items of an array; `first` before the first of them, which has no comma in
    front. -/
def itemsBytes : Bool → List Json → List UInt8
  | _, [] => []
  | first, j :: rest => (if first then [] else [44]) ++ Utf8.encode j.render ++ itemsBytes false rest

theorem encode_renderItems (js : List Json) : Utf8.encode (Json.renderItems js) = itemsBytes true js := by
  induction js with
  | nil => rfl
  | cons j rest ih =>
    cases rest with
    | nil => simp [Json.renderItems, itemsBytes]
    | cons j' rest' =>
      have hcomma : Utf8.encode "," = [44] := rfl
      rw [Json.renderItems.eq_3 j (j' :: rest') (by simp)]
      simp only [Utf8.encode_append, ih, itemsBytes, hcomma]
      simp

theorem encode_render_array (js : List Json) :
    Utf8.encode (Json.render (.array js)) = 91 :: itemsBytes true js ++ [93] := by
  rw [Json.render, Utf8.encode_append, Utf8.encode_append, encode_renderItems]
  rfl

/-- After an item comes a comma or the closing bracket. -/
theorem afterValue_itemsBytes (js : List Json) (tail : List UInt8) :
    AfterValue (itemsBytes false js ++ 93 :: tail) := by
  cases js with
  | nil => simp [AfterValue, itemsBytes]
  | cons j rest => simp [AfterValue, itemsBytes]

/-- The next item of an array, after its comma when it is not the first. -/
theorem Takes.hasNextItem_sep (first : Bool) {rest : List UInt8} {b : UInt8}
    (hrest : rest.head? = some b) (hb : b ≠ 93) (hblank : Cursor.isBlank b = false) (d : Nat) :
    Takes (JsonShape.hasNextItem first) (if first then [] else [44]) true rest d := by
  obtain ⟨rest, rfl⟩ : ∃ r, rest = b :: r := List.head?_eq_some_iff.1 hrest |>.imp fun _ h => h
  cases first
  · exact Takes.hasNextItem_comma hb hblank _ d
  · exact Takes.hasNextItem_first hb hblank _ d

/-- Whether the text of a value starts with a byte that is no blank and no closing bracket, as
    the text of every value does. -/
def Leads (j : Json) : Prop :=
  ∃ b rest, Utf8.encode j.render = b :: rest ∧ b ≠ 93 ∧ Cursor.isBlank b = false

theorem leads_object (kvs : List (String × Json)) : Leads (.object kvs) :=
  ⟨123, _, encode_render_object kvs, by decide, by decide⟩

section Items

variable {item : JsonShape} {e n : Nat} {tail : List UInt8}

/-- The items of an array are read one by one, each as the item shape reads it, and given back
    in order at the closing bracket. -/
theorem Takes.readItems_of_forall₂ {js js' : List Json}
    (h : List.Forall₂ (fun j j' => ReadsAs item j j' e n) js js') (hlead : ∀ j ∈ js, Leads j) :
    ∀ (first : Bool) (acc : List Json) (fuel : Nat), 2 * (itemsBytes first js).length + e + 1 ≤ fuel →
      Takes (JsonShape.readItems fuel item first acc) (itemsBytes first js) (acc.reverse ++ js')
        (93 :: tail) (n + 1) := by
  induction h with
  | nil =>
    intro first acc fuel hf
    obtain ⟨f, rfl⟩ : ∃ f, fuel = f + 1 := ⟨fuel - 1, by omega⟩
    rw [List.append_nil, JsonShape.readItems]
    refine (Takes.hasNextItem_close first tail _).bind_nil ?_
    rw [if_neg Bool.false_ne_true]
    exact Takes.pure _ _ _
  | cons hj hrest ih =>
    rename_i j j' js js'
    intro first acc fuel hf
    obtain ⟨f, rfl⟩ : ∃ f, fuel = f + 1 := ⟨fuel - 1, by omega⟩
    obtain ⟨b, bs, hbytes, hb, hblank⟩ := hlead j List.mem_cons_self
    have hbytes' : itemsBytes first (j :: js) = (if first then [] else [44]) ++
        (Utf8.encode j.render ++ itemsBytes false js) := by
      simp [itemsBytes]
    have hlen : 1 ≤ (Utf8.encode j.render).length := by
      rw [hbytes]
      exact Nat.succ_pos _
    rw [hbytes'] at hf ⊢
    simp only [List.length_append] at hf
    rw [JsonShape.readItems]
    refine (Takes.hasNextItem_sep first (by rw [hbytes]; rfl) hb hblank _).bind ?_
    rw [if_pos rfl]
    refine (hj f _ (by omega) (afterValue_itemsBytes js tail)).bind ?_
    have hnext := ih (fun j hj => hlead j (List.mem_cons_of_mem _ hj)) false (j' :: acc) f (by omega)
    rwa [List.reverse_cons, List.append_assoc, List.singleton_append] at hnext

end Items

/-- An array reads as a list when each item reads as the item shape reads it: as the items read,
    in the same order. -/
theorem readsAs_list {item : JsonShape} {e n : Nat} {js js' : List Json}
    (h : List.Forall₂ (fun j j' => ReadsAs item j j' e n) js js') (hlead : ∀ j ∈ js, Leads j) :
    ReadsAs (.list item) (.array js) (.array js') e (n + 1) := by
  intro fuel tail hf _
  rw [encode_render_array] at hf ⊢
  simp only [List.length_cons, List.length_append] at hf
  obtain ⟨f, rfl⟩ : ∃ f, fuel = f + 1 := ⟨fuel - 1, by omega⟩
  have hitems : Takes (JsonShape.readItems f item true []) (itemsBytes true js) ([].reverse ++ js')
      (93 :: tail) (n + 1) :=
    Takes.readItems_of_forall₂ h hlead true [] f (by omega)
  rw [List.reverse_nil, List.nil_append] at hitems
  rw [JsonShape.readBy]
  refine Takes.placed (Takes.peekAfterBlanks_bind rfl (by decide) ?_)
  dsimp only
  rw [if_pos rfl]
  exact Takes.within (hitems.bind_nil (Takes.pure _ _ _)) (Takes.closeList tail _) (by omega)

/-- Items each read as a value that `ofJson` takes back to them read, as a list, as values that
    take the list back. -/
theorem readsAs_list_map {α : Type} {item : JsonShape} {e n : Nat} (toJson : α → Json)
    (ofJson : Json → α) (l : List α)
    (h : ∀ x ∈ l, Leads (toJson x) ∧ ∃ j', ReadsAs item (toJson x) j' e n ∧ ofJson j' = x) :
    ∃ js', ReadsAs (.list item) (.array (l.map toJson)) (.array js') e (n + 1) ∧ js'.map ofJson = l := by
  -- Item by item, a value read for each.
  have hitems : ∃ js', List.Forall₂ (fun j j' => ReadsAs item j j' e n) (l.map toJson) js' ∧
      js'.map ofJson = l := by
    induction l with
    | nil => exact ⟨[], .nil, rfl⟩
    | cons x l ih =>
      obtain ⟨-, j', hread, hback⟩ := h x List.mem_cons_self
      obtain ⟨js', hrest, hmap⟩ := ih fun y hy => h y (List.mem_cons_of_mem _ hy)
      exact ⟨j' :: js', .cons hread hrest, by rw [List.map_cons, hback, hmap]⟩
  obtain ⟨js', hall, hmap⟩ := hitems
  refine ⟨js', readsAs_list hall fun j hj => ?_, hmap⟩
  obtain ⟨x, hx, rfl⟩ := List.mem_map.1 hj
  exact (h x hx).1

/-! ### Whole texts -/

/-- The text of a value that reads as `j'` is parsed as `j'`: a whole text has fuel for it, and
    starts deep enough for values nested up to 127 deep. -/
theorem parse_of_readsAs {shape : JsonShape} {j j' : Json} {e n : Nat} (h : ReadsAs shape j j' e n)
    (he : e ≤ 16) (hn : n ≤ 127) : JsonShape.parse shape j.render = .ok j' := by
  obtain ⟨c', hrun, hrest, -⟩ := h (8 * (Utf8.encode j.render).length + 16) [] (by omega)
    (fun _ hb => nomatch hb) (Cursor.start (Utf8.encode j.render))
    (List.append_nil (Utf8.encode j.render)).symm (by show n + 1 ≤ 128; omega)
  have hskip : c'.skipBlanks = c' := Cursor.skipBlanks_of_head (by simp [hrest])
  unfold JsonShape.parse JsonShape.parseBytes
  dsimp only
  rw [run_bind_of_ok hrun, run_bind_of_ok (run_peekAfterBlanks c'), hskip, hrest]
  rfl

end JsonReader

end FeatureFlags
