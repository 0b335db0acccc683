import Mathlib
import FeatureFlags.Proofs.Json.ShapeReading

/-!
# Flags, traits and identities read back from their text

The bodies exchanged with the flag service are written as compact JSON text and read by their
shapes. Written, then read, each gives back what was written, as long as its numbers come back:
the value of a flag or trait that is a double is written in the shortest text that reads back as
it (`FlagValue.Writable`), and a double that is NaN or infinite has no JSON text at all.

Such a double is written `null`. In a flag, where the value is optional, `null` is no value; in
a trait, where any value is taken, `null` is kept as the text of its JSON, `"null"`. A flag value
read from any text is written as a string, a boolean or a number that reads back as itself, so
reading a value, writing it and reading it again gives the first value again; an array or an
object read as a flag value is the text of its compact JSON, which reads back as that text.

* `FlagValue.readsAs_toJson`: the text of a value reads as a value of the same flag value;
* `Feature.readsAs_toJson`, `Flag.readsBack`, `Trait.readsBack`, `IdentityTrait.readsBack`:
  each entity reads as a value that gives it back;
* `wire_entities_read_back`: every entity read back from its text, `null` for the doubles
  without a text, and flag values stable once read.
-/

namespace FeatureFlags

open JsonReader

namespace Json

theorem getInt?_ofInt (i : Int) : getInt? (ofInt i) = some i := by
  unfold ofInt
  split_ifs with h
  · rfl
  · simp only [getInt?]
    congr 1
    omega

/-- The names of the fields set are some of the names of all fields, in the same order. -/
theorem keys_someFields_sublist (l : List (String × Option Json)) :
    ((someFields l).map Prod.fst).Sublist (l.map Prod.fst) := by
  induction l with
  | nil => exact List.Sublist.slnil
  | cons kv rest ih =>
    obtain ⟨k, o⟩ := kv
    cases o with
    | none => exact ih.cons k
    | some j => exact ih.cons_cons k

/-- The fields set, each read as itself, are read as themselves. -/
theorem forall₂_someFields {R : String × Json → String × Json → Prop}
    (l : List (String × Option Json)) (h : ∀ k j, (k, some j) ∈ l → R (k, j) (k, j)) :
    List.Forall₂ R (someFields l) (someFields l) := by
  refine List.forall₂_same.2 fun kv hkv => ?_
  obtain ⟨⟨k, o⟩, hmem, hkv⟩ := List.mem_filterMap.1 hkv
  obtain ⟨j, rfl, rfl⟩ := Option.map_eq_some_iff.1 hkv
  exact h k j hmem

end Json

namespace JsonReader

/-- A text read as a value that gives `x` back gives `x`. -/
theorem parse_map_of_readsAs {α : Type} {shape : JsonShape} {ofJson : Json → α} {j : Json} {x : α}
    {e n : Nat} (h : ∃ j', ReadsAs shape j j' e n ∧ ofJson j' = x) (he : e ≤ 16) (hn : n ≤ 127) :
    (JsonShape.parse shape j.render).map ofJson = .ok x := by
  obtain ⟨j', hread, rfl⟩ := h
  rw [parse_of_readsAs hread he hn]
  rfl

end JsonReader

/-! ### Flag values -/

namespace FlagValue

/-- A value whose double, if it is one, is written in a text that reads back as the same
    double. -/
def Writable (v : FlagValue) : Prop := ∀ x, v = .number x → Json.ReadsBack x

/-- The text of a value that reads back is no `null`: it starts with a quote, a letter of a
    boolean, a minus or a digit. -/
theorem lead_toJson {v : FlagValue} (hv : v.Writable) :
    ∃ b rest, Utf8.encode (Json.render v.toJson) = b :: rest ∧ b ≠ 110 ∧ Cursor.isBlank b = false := by
  cases v with
  | text s => exact ⟨34, _, encode_render_string s, by decide, by decide⟩
  | bool b =>
    cases b
    · exact ⟨102, _, encode_render_false, by decide, by decide⟩
    · exact ⟨116, _, encode_render_true, by decide, by decide⟩
  | number x =>
    obtain ⟨b, rest, hbytes, hb⟩ := encode_render_float (hv x rfl)
    refine ⟨b, rest, hbytes, ?_, ?_⟩
    · rintro rfl
      rcases hb with h | h <;> revert h <;> decide
    · rcases hb with rfl | h
      · decide
      · exact isBlank_of_isDigit h

/-- The text of a value that reads back is read, by any shape and as an optional value, as a
    value other than `null` that gives the same flag value. -/
theorem readsAs_toJson {v : FlagValue} (hv : v.Writable) :
    ∃ j', j' ≠ .null ∧ ofJson j' = v ∧ ReadsAs .dynamic v.toJson j' 2 0 ∧
      ReadsAs (.optional .dynamic) v.toJson j' 3 0 := by
  obtain ⟨b, rest, hbytes, hb, hblank⟩ := lead_toJson hv
  have hopt {j' : Json} (h : ReadsAs .dynamic v.toJson j' 2 0) :
      ReadsAs (.optional .dynamic) v.toJson j' 3 0 := h.optional hbytes hb hblank
  cases v with
  | text s => exact ⟨.string s, nofun, rfl, readsAs_dynamic_string s, hopt (readsAs_dynamic_string s)⟩
  | bool b => exact ⟨.bool b, nofun, rfl, readsAs_dynamic_bool b, hopt (readsAs_dynamic_bool b)⟩
  | number x =>
    obtain ⟨m, hm, hread⟩ := readsAs_dynamic_float (hv x rfl)
    exact ⟨.number m, nofun, by rw [ofJson, hm], hread, hopt hread⟩

/-- A double with no text is written `null`, and reads as `null`, by any shape and as an
    optional value. -/
theorem readsAs_nonfinite {x : Float} (hx : (x.isNaN || x.isInf) = true) :
    ReadsAs .dynamic (number x).toJson .null 2 0 ∧ ReadsAs (.optional .dynamic) (number x).toJson .null 1 0 :=
  ⟨readsAs_dynamic_nonfinite hx, (readsAs_null .dynamic).of_render_eq (render_nonfinite hx).symm⟩

end FlagValue

/-! ### Features and flags -/

namespace Feature

theorem ofJson_toJson (f : Feature) : ofJson f.toJson = f := by
  obtain ⟨id, name, created, description, initial, enabled, kind⟩ := f
  cases created <;> cases description <;> cases initial <;> cases enabled <;>
    simp [ofJson, toJson, Json.someFields, Json.get?, Json.stringField, Json.optionalString,
      Json.getInt?_ofInt, Json.getString?, Json.getBool?]

/-- A feature whose id fits in 64 bits reads as written: every field set is one of its shape,
    written in declaration order, and only fields with a default are left out. -/
theorem readsAs_toJson {f : Feature} (hid : -2 ^ 63 ≤ f.id ∧ f.id < 2 ^ 63) :
    ReadsAs shape f.toJson f.toJson 2 1 := by
  unfold shape toJson
  refine readsAs_record (Json.forall₂_someFields _ fun k j hmem => ?_)
    (Json.keys_someFields_sublist _) (by decide) ?_
  · -- Each field set, with the shape of its name.
    simp only [List.mem_cons, Prod.mk.injEq, List.mem_nil_iff, or_false] at hmem
    rcases hmem with ⟨rfl, h⟩ | ⟨rfl, h⟩ | ⟨rfl, h⟩ | ⟨rfl, h⟩ | ⟨rfl, h⟩ | ⟨rfl, h⟩ | ⟨rfl, h⟩
    · cases h
      exact ⟨rfl, .integer, rfl, (readsAs_integer hid.1 hid.2).mono (by omega) le_rfl⟩
    · cases h
      exact ⟨rfl, .text, rfl, (readsAs_text _).mono (by omega) le_rfl⟩
    · obtain ⟨s, -, rfl⟩ := Option.map_eq_some_iff.1 h.symm
      exact ⟨rfl, _, rfl, readsAs_optional_text s⟩
    · obtain ⟨s, -, rfl⟩ := Option.map_eq_some_iff.1 h.symm
      exact ⟨rfl, _, rfl, readsAs_optional_text s⟩
    · obtain ⟨s, -, rfl⟩ := Option.map_eq_some_iff.1 h.symm
      exact ⟨rfl, _, rfl, readsAs_optional_text s⟩
    · obtain ⟨b, -, rfl⟩ := Option.map_eq_some_iff.1 h.symm
      exact ⟨rfl, _, rfl, readsAs_optional_boolean b⟩
    · cases h
      exact ⟨rfl, .text, rfl, (readsAs_text _).mono (by omega) le_rfl⟩
  · -- Only the fields with a default are ever left out.
    intro g hg hgone
    simp only [List.mem_cons, List.mem_nil_iff, or_false] at hg
    rcases hg with rfl | rfl | rfl | rfl | rfl | rfl | rfl
    all_goals first | exact .inl rfl | simp [Json.someFields] at hgone

end Feature

namespace Flag

/-- A flag reads as the object of its feature, the value its value reads as, and its state. -/
theorem readsAs_toJson {f : Flag} (hid : -2 ^ 63 ≤ f.feature.id ∧ f.feature.id < 2 ^ 63) {j : Json}
    (hvalue : ReadsAs (.optional .dynamic) ((f.value.map FlagValue.toJson).getD .null) j 3 0) :
    ReadsAs shape f.toJson
      (.object [("feature", f.feature.toJson), ("feature_state_value", j), ("enabled", .bool f.enabled)])
      3 2 :=
  readsAs_record_whole
    (.cons ⟨rfl, _, rfl, (Feature.readsAs_toJson hid).mono (by omega) le_rfl⟩
      (.cons ⟨rfl, _, rfl, hvalue.mono le_rfl (by omega)⟩
        (.cons ⟨rfl, _, rfl, (readsAs_boolean _).mono (by omega) (by omega)⟩ .nil)))
    rfl (by decide)

/-- A flag read with `null` for its value has none. -/
theorem ofJson_null (f : Flag) :
    ofJson (.object [("feature", f.feature.toJson), ("feature_state_value", .null),
      ("enabled", .bool f.enabled)]) = { f with value := none } := by
  simp [ofJson, Json.get?, Feature.ofJson_toJson, Json.boolField, Json.getBool?]

/-- A flag read with a value other than `null` has the flag value of it. -/
theorem ofJson_value (f : Flag) {j : Json} (hj : j ≠ .null) :
    ofJson (.object [("feature", f.feature.toJson), ("feature_state_value", j),
      ("enabled", .bool f.enabled)]) = { f with value := some (FlagValue.ofJson j) } := by
  cases j with
  | null => exact absurd rfl hj
  | _ => simp [ofJson, Json.get?, Feature.ofJson_toJson, Json.boolField, Json.getBool?]

/-- A flag whose feature id fits in 64 bits and whose value, if any, reads back, reads as a
    value that gives it back. -/
theorem readsBack {f : Flag} (hid : -2 ^ 63 ≤ f.feature.id ∧ f.feature.id < 2 ^ 63)
    (hv : ∀ v ∈ f.value, v.Writable) : ∃ j, ReadsAs shape f.toJson j 3 2 ∧ ofJson j = f := by
  cases hval : f.value with
  | none =>
    have hnull : ReadsAs (.optional .dynamic) ((f.value.map FlagValue.toJson).getD .null) .null 3 0 := by
      rw [hval]
      exact (readsAs_null .dynamic).mono (by omega) le_rfl
    refine ⟨_, readsAs_toJson hid hnull, ?_⟩
    rw [ofJson_null, ← hval]
  | some v =>
    obtain ⟨j, hj, hof, -, hopt⟩ := FlagValue.readsAs_toJson (hv v hval)
    have hvalue : ReadsAs (.optional .dynamic) ((f.value.map FlagValue.toJson).getD .null) j 3 0 := by
      rw [hval]
      exact hopt
    refine ⟨_, readsAs_toJson hid hvalue, ?_⟩
    rw [ofJson_value f hj, hof, ← hval]

/-- A flag whose value is a double with no text is read back without a value. -/
theorem readsBack_nonfinite {f : Flag} (hid : -2 ^ 63 ≤ f.feature.id ∧ f.feature.id < 2 ^ 63)
    {x : Float} (hval : f.value = some (.number x)) (hx : (x.isNaN || x.isInf) = true) :
    ∃ j, ReadsAs shape f.toJson j 3 2 ∧ ofJson j = { f with value := none } := by
  have hnull : ReadsAs (.optional .dynamic) ((f.value.map FlagValue.toJson).getD .null) .null 3 0 := by
    rw [hval]
    exact (FlagValue.readsAs_nonfinite hx).2.mono (by omega) le_rfl
  exact ⟨_, readsAs_toJson hid hnull, ofJson_null f⟩

end Flag

/-! ### Traits and identities -/

namespace Trait

/-- A trait reads as the object of its key and the value its value reads as. -/
theorem readsAs_toJson (t : Trait) {j : Json} (hvalue : ReadsAs .dynamic t.value.toJson j 2 0) :
    ReadsAs shape t.toJson (.object [("trait_key", .string t.key), ("trait_value", j)]) 2 1 :=
  readsAs_record_whole
    (.cons ⟨rfl, _, rfl, (readsAs_text _).mono (by omega) le_rfl⟩ (.cons ⟨rfl, _, rfl, hvalue⟩ .nil))
    rfl (by decide)

theorem ofJson_object (key : String) (j : Json) :
    ofJson (.object [("trait_key", .string key), ("trait_value", j)]) = ⟨key, FlagValue.ofJson j⟩ := by
  simp [ofJson, Json.get?, Json.stringField, Json.getString?]

/-- A trait whose value reads back reads as a value that gives it back. -/
theorem readsBack {t : Trait} (hv : t.value.Writable) : ∃ j, ReadsAs shape t.toJson j 2 1 ∧ ofJson j = t := by
  obtain ⟨j, -, hof, hread, -⟩ := FlagValue.readsAs_toJson hv
  exact ⟨_, t.readsAs_toJson hread, by rw [ofJson_object, hof]⟩

/-- A trait whose value is a double with no text is read back with the text `null`. -/
theorem readsBack_nonfinite {t : Trait} {x : Float} (hval : t.value = .number x)
    (hx : (x.isNaN || x.isInf) = true) :
    ∃ j, ReadsAs shape t.toJson j 2 1 ∧ ofJson j = { t with value := .text "null" } := by
  have hnull : ReadsAs .dynamic t.value.toJson .null 2 0 := by
    rw [hval]
    exact (FlagValue.readsAs_nonfinite hx).1
  exact ⟨_, t.readsAs_toJson hnull, by rw [ofJson_object]; rfl⟩

end Trait

namespace Identity

theorem readsAs_toJson (i : Identity) : ReadsAs shape i.toJson i.toJson 1 1 :=
  readsAs_record_whole (.cons ⟨rfl, _, rfl, readsAs_text _⟩ .nil) rfl (by decide)

theorem ofJson_toJson (i : Identity) : ofJson i.toJson = i := by
  simp [ofJson, toJson, Json.get?, Json.stringField, Json.getString?]

end Identity

namespace IdentityTrait

/-- A trait with its identity reads as the object of its key, the value its value reads as, and
    its identity. -/
theorem readsAs_toJson (t : IdentityTrait) {j : Json} (hvalue : ReadsAs .dynamic t.value.toJson j 2 0) :
    ReadsAs shape t.toJson
      (.object [("trait_key", .string t.key), ("trait_value", j), ("identity", t.identity.toJson)]) 2 2 :=
  readsAs_record_whole
    (.cons ⟨rfl, _, rfl, (readsAs_text _).mono (by omega) (by omega)⟩
      (.cons ⟨rfl, _, rfl, hvalue.mono le_rfl (by omega)⟩
        (.cons ⟨rfl, _, rfl, (Identity.readsAs_toJson _).mono (by omega) le_rfl⟩ .nil)))
    rfl (by decide)

theorem ofJson_object (t : IdentityTrait) (j : Json) :
    ofJson (.object [("trait_key", .string t.key), ("trait_value", j), ("identity", t.identity.toJson)]) =
      { t with value := FlagValue.ofJson j } := by
  simp [ofJson, Json.get?, Json.stringField, Json.getString?, Identity.ofJson_toJson]

theorem readsBack {t : IdentityTrait} (hv : t.value.Writable) :
    ∃ j, ReadsAs shape t.toJson j 2 2 ∧ ofJson j = t := by
  obtain ⟨j, -, hof, hread, -⟩ := FlagValue.readsAs_toJson hv
  exact ⟨_, t.readsAs_toJson hread, by rw [ofJson_object, hof]⟩

theorem readsBack_nonfinite {t : IdentityTrait} {x : Float} (hval : t.value = .number x)
    (hx : (x.isNaN || x.isInf) = true) :
    ∃ j, ReadsAs shape t.toJson j 2 2 ∧ ofJson j = { t with value := .text "null" } := by
  have hnull : ReadsAs .dynamic t.value.toJson .null 2 0 := by
    rw [hval]
    exact (FlagValue.readsAs_nonfinite hx).1
  exact ⟨_, t.readsAs_toJson hnull, by rw [ofJson_object]; rfl⟩

end IdentityTrait

namespace IdentityState

/-- An identity's flags and traits, each of which reads back, read as a value that gives them
    back. -/
theorem readsBack {s : IdentityState}
    (hflags : ∀ f ∈ s.flags, (-2 ^ 63 ≤ f.feature.id ∧ f.feature.id < 2 ^ 63) ∧ ∀ v ∈ f.value, v.Writable)
    (htraits : ∀ t ∈ s.traits, t.value.Writable) : ∃ j, ReadsAs shape s.toJson j 3 4 ∧ ofJson j = s := by
  obtain ⟨fs, hfs, hfmap⟩ := readsAs_list_map Flag.toJson Flag.ofJson s.flags fun f hf =>
    ⟨leads_object _, Flag.readsBack (hflags f hf).1 (hflags f hf).2⟩
  obtain ⟨ts, hts, htmap⟩ := readsAs_list_map Trait.toJson Trait.ofJson s.traits fun t ht =>
    ⟨leads_object _, Trait.readsBack (htraits t ht)⟩
  refine ⟨.object [("flags", .array fs), ("traits", .array ts)],
    readsAs_record_whole (.cons ⟨rfl, _, rfl, hfs⟩ (.cons ⟨rfl, _, rfl, hts.mono (by omega) (by omega)⟩ .nil))
      rfl (by decide),
    ?_⟩
  simp [ofJson, Json.get?, Json.arrayField, Json.getArray?, hfmap, htmap]

end IdentityState

namespace IdentityRequest

/-- An identity request whose traits read back reads as a value that gives it back. -/
theorem readsBack {r : IdentityRequest} (htraits : ∀ t ∈ r.traits, t.value.Writable) :
    ∃ j, ReadsAs shape r.toJson j 2 3 ∧ ofJson j = r := by
  obtain ⟨ts, hts, htmap⟩ := readsAs_list_map Trait.toJson Trait.ofJson r.traits fun t ht =>
    ⟨leads_object _, Trait.readsBack (htraits t ht)⟩
  have hname : ReadsAs .text (.string r.identifier) (.string r.identifier) 2 2 :=
    (readsAs_text _).mono (by omega) (by omega)
  -- Whether the request is transient is written only when it is set.
  cases htr : r.transient with
  | none =>
    have hjson : r.toJson =
        .object [("identifier", .string r.identifier), ("traits", .array (r.traits.map Trait.toJson))] := by
      simp [toJson, htr, Json.someFields]
    refine ⟨.object [("identifier", .string r.identifier), ("traits", .array ts)], ?_, ?_⟩
    · rw [hjson]
      have hsub : ["identifier", "traits"].Sublist ["identifier", "traits", "transient"] := by decide
      refine readsAs_record (.cons ⟨rfl, _, rfl, hname⟩ (.cons ⟨rfl, _, rfl, hts⟩ .nil)) hsub
        (by decide) fun g hg hgone => ?_
      simp only [List.mem_cons, List.mem_nil_iff, or_false] at hg
      rcases hg with rfl | rfl | rfl
      all_goals first | exact .inl rfl | simp at hgone
    · simp [ofJson, Json.get?, Json.stringField, Json.getString?, Json.arrayField, Json.getArray?, htmap, ← htr]
  | some b =>
    have hjson : r.toJson = .object [("identifier", .string r.identifier),
        ("traits", .array (r.traits.map Trait.toJson)), ("transient", .bool b)] := by
      simp [toJson, htr, Json.someFields]
    have hflag : ReadsAs (.optional .boolean) (.bool b) (.bool b) 2 2 :=
      (readsAs_optional_boolean b).mono le_rfl (by omega)
    refine ⟨.object [("identifier", .string r.identifier), ("traits", .array ts), ("transient", .bool b)], ?_, ?_⟩
    · rw [hjson]
      exact readsAs_record_whole
        (.cons ⟨rfl, _, rfl, hname⟩ (.cons ⟨rfl, _, rfl, hts⟩ (.cons ⟨rfl, _, rfl, hflag⟩ .nil))) rfl (by decide)
    · simp [ofJson, Json.get?, Json.stringField, Json.getString?, Json.arrayField, Json.getArray?,
        Json.getBool?, htmap, ← htr]

end IdentityRequest

/-! ### Flag values read again -/

namespace FlagValue

/-- A value whose double, if any, reads back is read again from its own text: so a value read
    from a text, written and read again, is the value first read. -/
theorem parse_toJson {v : FlagValue} (hv : v.Writable) : parse (Json.render v.toJson) = .ok v := by
  obtain ⟨j, -, hof, hread, -⟩ := readsAs_toJson hv
  exact parse_map_of_readsAs ⟨j, hread, hof⟩ (by omega) (by omega)

/-- An array or an object read as a flag value is the text of its compact JSON, and that text is
    read again as itself. -/
theorem parse_of_container {source : String} {j : Json} (h : JsonShape.parse .dynamic source = .ok j)
    (hj : (∃ items, j = .array items) ∨ ∃ fields, j = .object fields) :
    parse source = .ok (.text (Json.render j)) ∧
      parse (Json.render (text (Json.render j)).toJson) = .ok (.text (Json.render j)) := by
  refine ⟨?_, parse_toJson nofun⟩
  rw [parse, h]
  rcases hj with ⟨items, rfl⟩ | ⟨fields, rfl⟩ <;> rfl

end FlagValue

/-- The entities exchanged with the flag service read back from their text: each is written and
    read back as it was, as long as the ids of its features fit in 64 bits and the doubles of its
    values are written in texts that read back as them (`FlagValue.Writable`). A double that is
    NaN or infinite is written `null`: a flag with it reads back with no value, a trait reads back
    with the text `null`, as does the value alone. A flag value written and read again is the
    value written, so reading is stable on what it reads, and an array or object read as a flag
    value is the text of its compact JSON. -/
theorem wire_entities_read_back :
    (∀ f : Feature, -2 ^ 63 ≤ f.id ∧ f.id < 2 ^ 63 →
      (JsonShape.parse Feature.shape (Json.render f.toJson)).map Feature.ofJson = .ok f) ∧
    (∀ f : Flag, -2 ^ 63 ≤ f.feature.id ∧ f.feature.id < 2 ^ 63 → (∀ v ∈ f.value, v.Writable) →
      (JsonShape.parse Flag.shape (Json.render f.toJson)).map Flag.ofJson = .ok f) ∧
    (∀ t : Trait, t.value.Writable →
      (JsonShape.parse Trait.shape (Json.render t.toJson)).map Trait.ofJson = .ok t) ∧
    (∀ t : IdentityTrait, t.value.Writable →
      (JsonShape.parse IdentityTrait.shape (Json.render t.toJson)).map IdentityTrait.ofJson = .ok t) ∧
    (∀ s : IdentityState,
      (∀ f ∈ s.flags, (-2 ^ 63 ≤ f.feature.id ∧ f.feature.id < 2 ^ 63) ∧ ∀ v ∈ f.value, v.Writable) →
      (∀ t ∈ s.traits, t.value.Writable) →
      (JsonShape.parse IdentityState.shape (Json.render s.toJson)).map IdentityState.ofJson = .ok s) ∧
    (∀ r : IdentityRequest, (∀ t ∈ r.traits, t.value.Writable) →
      (JsonShape.parse IdentityRequest.shape (Json.render r.toJson)).map IdentityRequest.ofJson =
        .ok r) ∧
    (∀ x : Float, (x.isNaN || x.isInf) = true →
      Json.render (FlagValue.number x).toJson = "null" ∧
      (∀ f : Flag, -2 ^ 63 ≤ f.feature.id ∧ f.feature.id < 2 ^ 63 → f.value = some (.number x) →
        (JsonShape.parse Flag.shape (Json.render f.toJson)).map Flag.ofJson =
          .ok { f with value := none }) ∧
      (∀ t : Trait, t.value = .number x →
        (JsonShape.parse Trait.shape (Json.render t.toJson)).map Trait.ofJson =
          .ok { t with value := .text "null" }) ∧
      (∀ t : IdentityTrait, t.value = .number x →
        (JsonShape.parse IdentityTrait.shape (Json.render t.toJson)).map IdentityTrait.ofJson =
          .ok { t with value := .text "null" }) ∧
      FlagValue.parse (Json.render (FlagValue.number x).toJson) = .ok (.text "null")) ∧
    (∀ v : FlagValue, v.Writable → FlagValue.parse (Json.render v.toJson) = .ok v) ∧
    (∀ (text : String) (j : Json), JsonShape.parse .dynamic text = .ok j →
      ((∃ items, j = .array items) ∨ ∃ fields, j = .object fields) →
      FlagValue.parse text = .ok (.text (Json.render j)) ∧
        FlagValue.parse (Json.render (FlagValue.text (Json.render j)).toJson) =
          .ok (.text (Json.render j))) := by
  refine ⟨fun f hid => parse_map_of_readsAs ⟨_, Feature.readsAs_toJson hid, Feature.ofJson_toJson f⟩
      (by omega) (by omega),
    fun f hid hv => parse_map_of_readsAs (Flag.readsBack hid hv) (by omega) (by omega),
    fun t hv => parse_map_of_readsAs (Trait.readsBack hv) (by omega) (by omega),
    fun t hv => parse_map_of_readsAs (IdentityTrait.readsBack hv) (by omega) (by omega),
    fun s hflags htraits => parse_map_of_readsAs (IdentityState.readsBack hflags htraits) (by omega)
      (by omega),
    fun r htraits => parse_map_of_readsAs (IdentityRequest.readsBack htraits) (by omega) (by omega),
    fun x hx => ⟨?_, fun f hid hval => ?_, fun t hval => ?_, fun t hval => ?_, ?_⟩,
    fun v hv => FlagValue.parse_toJson hv,
    fun text j h hj => FlagValue.parse_of_container h hj⟩
  · exact render_nonfinite hx
  · exact parse_map_of_readsAs (Flag.readsBack_nonfinite hid hval hx) (by omega) (by omega)
  · exact parse_map_of_readsAs (Trait.readsBack_nonfinite hval hx) (by omega) (by omega)
  · exact parse_map_of_readsAs (IdentityTrait.readsBack_nonfinite hval hx) (by omega) (by omega)
  · exact parse_map_of_readsAs ⟨_, (FlagValue.readsAs_nonfinite hx).1, rfl⟩ (by omega) (by omega)

/-- A flag of the standard feature `price`, on, with the value `1.5`. -/
def priceFlag : Flag := { feature := Feature.named 7 "price", value := some (.number 1.5), enabled := true }

/-- The flag `price` is read back from its text. -/
theorem priceFlag_reads_back :
    (JsonShape.parse Flag.shape (Json.render priceFlag.toJson)).map Flag.ofJson = .ok priceFlag :=
  wire_entities_read_back.2.1 priceFlag ⟨by norm_num [priceFlag, Feature.named],
    by norm_num [priceFlag, Feature.named]⟩ fun v hv x hx => by
    cases hv
    cases hx
    rfl

end FeatureFlags
