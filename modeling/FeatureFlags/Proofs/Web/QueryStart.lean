import Mathlib
import FeatureFlags.Proofs.Web.HostText
import FeatureFlags.Web.Url

/-!
# Where the query of a URL starts

The text of a URL is its scheme, authority and path, then `?` and the query, then `#` and
the fragment. The query is found again in the text at its first `?` only when nothing before
the query holds one: such a URL is `Url.Delimited`. Every URL read is delimited, when its
base is (`Url.parse_delimited`): a scheme is letters, digits, `+`, `-` and `.`; a user name,
a password and a path segment are written with `?` escaped; no host holds one (see
`Host.question_not_mem_text_of_parse`); and an opaque path stops at the first `?`.

The authority readers are `do` blocks over `Except`. Each is given a Hoare triple
`⦃⌜True⌝⦄ r ⦃⇓? a => ⌜P a⌝⦄`, which `Except.triple_iff` reads as a fact about every value
it returns; `mvcgen` splits a reader's body into the facts its results need.
-/

open Std.Do

set_option mvcgen.warning false

namespace FeatureFlags

/-- A triple of an `Except` computation says its property of every value it returns. -/
theorem Except.triple_iff {ε α : Type} {e : Except ε α} {P : α → Prop} :
    ⦃⌜True⌝⦄ e ⦃⇓? a => ⌜P a⌝⦄ ↔ ∀ a, e = .ok a → P a := by
  change ⦃⌜True⌝⦄ (ExceptT.mk e : ExceptT ε Id α) ⦃⇓? a => ⌜P a⌝⦄ ↔ _
  cases e <;> simp [Triple.iff, wp, ExceptT.run, ExceptT.mk, Id.run]

/-- Throwing satisfies what the postcondition asks of the error. (The library's rule for
    `Except` leaves a monad of its own undetermined, so readers use this one.) -/
theorem Except.throw_spec {ε α : Type} {e : ε} {Q : PostCond α (.except ε .pure)} :
    ⦃Q.2.1 e⦄ (MonadExceptOf.throw e : Except ε α) ⦃Q⦄ := by
  simp [Triple.iff]

/-- A set that escapes `?` writes none. -/
theorem Percent.question_not_mem_encode_of_escaped {set : EncodeSet} (hset : set 63 = true)
    (s : String) : '?' ∉ (Percent.encode set s).toList := fun hq => by
  simp [(Percent.question_mem_encode hq).2] at hset

namespace UrlPath

theorem question_mem_lowerAscii {cs : List Char} (h : '?' ∈ lowerAscii cs) : '?' ∈ cs := by
  obtain ⟨c, hc, hq⟩ := List.mem_map.1 h
  split_ifs at hq with hupper
  · -- an upper-case letter becomes a lower-case one, never `?`
    simp only [Bool.and_eq_true, decide_eq_true_eq, Char.le_def, UInt32.le_iff_toNat_le] at hupper
    have hc' : c.toNat = c.val.toNat := rfl
    have hA : 'A'.val.toNat = 65 := rfl
    have hZ : 'Z'.val.toNat = 90 := rfl
    have h63 : '?'.toNat = 63 := rfl
    have hv : (Char.ofNat (c.toNat + 32)).toNat = c.toNat + 32 :=
      Utf8.toNat_ofNat_of_valid (by omega)
    have := congrArg Char.toNat hq
    omega
  · exact hq ▸ hc

theorem question_not_mem_text_ofText {t : List Char} (h : '?' ∉ t) :
    '?' ∉ (ofText t).text.toList := by
  unfold ofText
  split
  · simp [text]
  · rename_i c rest
    rw [show "/" = String.singleton '/' by rfl, String.splitOn_singleton, String.toList_ofList]
    simp only [text, String.toList_join, List.map_map, List.mem_flatMap, List.mem_map,
      Function.comp_apply, not_exists, not_and]
    rintro _ ⟨piece, hpiece, rfl⟩ hq
    simp only [String.toList_append, List.mem_append, String.toList_ofList] at hq
    rcases hq with hq | hq
    · simp at hq
    · exact h (List.mem_cons_of_mem c (List.mem_of_mem_splitOn hpiece hq))

/-- A path segment writes `?` escaped. -/
theorem question_not_mem_encode_path (s : String) :
    '?' ∉ (Percent.encode EncodeSet.path s).toList :=
  Percent.question_not_mem_encode_of_escaped (by decide) s

theorem question_not_mem_popSegment (file : Bool) {t : List Char} (h : '?' ∉ t) :
    '?' ∉ popSegment file t := by
  unfold popSegment
  split
  · split_ifs
    · exact h
    · exact fun hq => h (List.mem_of_mem_take hq)
  · exact h

theorem question_not_mem_readSegment (special file : Bool) :
    ∀ (start : Nat) (t input : List Char), '?' ∉ t →
      '?' ∉ (readSegment special file start t input).1
  | _, _, [], h => h
  | start, t, c :: rest, h => by
    unfold readSegment
    split_ifs with h1 h2
    · simp [h]
    · exact h
    all_goals
      apply question_not_mem_readSegment
      simp only [List.mem_append, List.mem_singleton, not_or]
      exact ⟨by simpa using h, question_not_mem_encode_path _⟩

theorem question_not_mem_settleSegment (file : Bool) (start : Nat) {t : List Char}
    (slash hasHost : Bool) (h : '?' ∉ t) : '?' ∉ (settleSegment file start t slash hasHost).1 := by
  -- every text it leaves is made of characters of `t`, slashes and a colon
  have htake : '?' ∉ t.take start := fun hq => h (List.mem_of_mem_take hq)
  have hpop : '?' ∉ popSegment file (t.take start) := question_not_mem_popSegment file htake
  have hpop' : '?' ∉ popSegment file (t.take start).dropLast :=
    question_not_mem_popSegment file fun hq => htake (List.mem_of_mem_dropLast hq)
  have hdrive : '?' ∉ (t.drop start).take 1 := fun hq =>
    h (List.mem_of_mem_drop (List.mem_of_mem_take hq))
  have hdrive' : '?' ∉ ((t.drop start).dropLast).take 1 := fun hq =>
    h (List.mem_of_mem_drop (List.mem_of_mem_dropLast (List.mem_of_mem_take hq)))
  unfold settleSegment
  dsimp only
  split_ifs <;> simp [h, htake, hpop, hpop', hdrive, hdrive']

theorem question_not_mem_readSegments (special file : Bool) :
    ∀ (fuel : Nat) (t : List Char) (hasHost : Bool) (input : List Char), '?' ∉ t →
      '?' ∉ (readSegments special file fuel t hasHost input).1
  | 0, _, _, _, h => h
  | fuel + 1, t, hasHost, input, h => by
    unfold readSegments
    rcases hr : readSegment special file t.length t input with ⟨t₁, start, slash, rest⟩
    have h₁ : '?' ∉ t₁ := by
      simpa [hr] using question_not_mem_readSegment special file t.length t input h
    rcases hs : settleSegment file start t₁ slash hasHost with ⟨t₂, hasHost₂⟩
    have h₂ : '?' ∉ t₂ := by
      simpa [hs] using question_not_mem_settleSegment file start slash hasHost h₁
    dsimp only
    rw [hs]
    split
    · exact question_not_mem_readSegments special file fuel t₂ hasHost₂ rest h₂
    · exact h₂

/-- The text a path is read onto holds no `?` it did not hold before. -/
theorem question_not_mem_read (special file : Bool) {t : List Char} (hasHost : Bool)
    (input : List Char) (h : '?' ∉ t) : '?' ∉ (read special file t hasHost input).1 := by
  have hs := question_not_mem_readSegments special file (input.length + 1) t hasHost input h
  unfold read
  rcases hr : readSegments special file (input.length + 1) t hasHost input with
    ⟨t₁, hasHost₁, rest⟩
  rw [hr] at hs
  dsimp only
  split
  · simp only [List.mem_cons, not_or]
    exact ⟨by decide, fun hq => hs ((List.dropWhile_suffix _).subset hq)⟩
  · exact hs

end UrlPath

namespace Host

@[spec]
theorem parse_spec (s : String) : ⦃⌜True⌝⦄ parse s ⦃⇓? h => ⌜ '?' ∉ h.text.toList⌝⦄ :=
  Except.triple_iff.2 fun _ h => question_not_mem_text_of_parse h

@[spec]
theorem parseOpaque_spec (s : String) :
    ⦃⌜True⌝⦄ parseOpaque s ⦃⇓? h => ⌜ '?' ∉ h.text.toList⌝⦄ :=
  Except.triple_iff.2 fun _ h => question_not_mem_text_of_parseOpaque h

end Host

namespace Url

/-- The URL without its query and fragment: the part of its text before the query. -/
def beforeQuery (u : Url) : Url := { u with query := none, fragment := none }

/-- A URL whose parts before the query hold no `?`, so that the first `?` of its text, if
    any, begins the query. -/
structure Delimited (u : Url) : Prop where
  scheme : '?' ∉ u.scheme.toList
  username : '?' ∉ u.username.toList
  password : '?' ∉ u.password.toList
  host : ∀ h ∈ u.host, '?' ∉ h.text.toList
  path : '?' ∉ u.path.text.toList

/-- The text of a delimited URL holds no `?` before its query. -/
theorem Delimited.question_not_mem_beforeQuery {u : Url} (hu : u.Delimited) :
    '?' ∉ u.beforeQuery.text.toList := by
  unfold beforeQuery text
  dsimp only
  simp only [String.toList_append, List.mem_append, not_or]
  refine ⟨⟨⟨⟨⟨hu.scheme, by decide⟩, ?_⟩, hu.path⟩, by simp⟩, by simp⟩
  split
  · rename_i h hh
    have hhost := hu.host h hh
    have hname := hu.username
    have hpass := hu.password
    have hport (p : Nat) : '?' ∉ (":" ++ toString p).toList := by
      simp only [String.toList_append, List.mem_append, not_or]
      exact ⟨by decide, question_not_mem_toString p⟩
    rcases u.port with _ | p <;> split_ifs <;> simp_all
  · split <;> decide

theorem withQuery_delimited {u : Url} (hu : u.Delimited) (query fragment : Option String) :
    ({ u with query, fragment } : Url).Delimited :=
  ⟨hu.scheme, hu.username, hu.password, hu.host, hu.path⟩

/-- Reading a path onto a text without `?` keeps a URL delimited. -/
theorem withPath_delimited {u : Url} (hu : u.Delimited) (file : Bool) {start : List Char}
    (hasHost : Bool) (input : List Char) (hs : '?' ∉ start) :
    (u.withPath file start hasHost input).Delimited := by
  have ht := UrlPath.question_not_mem_read u.isSpecial file hasHost input hs
  unfold withPath
  rcases hr : UrlPath.read u.isSpecial file start hasHost input with ⟨t, keepsHost, rest⟩
  rw [hr] at ht
  dsimp only
  refine ⟨hu.scheme, hu.username, hu.password, ?_, UrlPath.question_not_mem_text_ofText ht⟩
  -- the host stays, or a `file` drive letter leaves the empty one
  split
  · simp [Host.text]
  · exact hu.host

/-- A user name and password are written with `?` escaped. -/
theorem readUserinfo_eq_ok {special : Bool} {cs : List Char} {name pass : String}
    {rest : List Char} (h : readUserinfo special cs = .ok (name, pass, rest)) :
    '?' ∉ name.toList ∧ '?' ∉ pass.toList := by
  unfold readUserinfo at h
  dsimp only at h
  split at h
  · cases h
    decide
  · split at h
    · split at h
      · cases h
      · cases h
        decide
    · cases h
      decide
  · cases h
    have hset : EncodeSet.userinfo 63 = true := by decide
    exact ⟨Percent.question_not_mem_encode_of_escaped hset _,
      Percent.question_not_mem_encode_of_escaped hset _⟩

@[spec]
theorem readUserinfo_spec (special : Bool) (cs : List Char) :
    ⦃⌜True⌝⦄ readUserinfo special cs ⦃⇓? r => ⌜ '?' ∉ r.1.toList ∧ '?' ∉ r.2.1.toList⌝⦄ :=
  Except.triple_iff.2 fun _ h => readUserinfo_eq_ok h

@[spec]
theorem readPort_spec (scheme : String) (cs : List Char) :
    ⦃⌜True⌝⦄ readPort scheme cs ⦃⇓? _ => ⌜True⌝⦄ :=
  Except.triple_iff.2 fun _ _ => trivial

/-- A URL of an authority without a path is delimited when its parts are. -/
theorem authority_delimited {scheme name pass : String} {host : Host} {port : Option Nat}
    (hs : '?' ∉ scheme.toList) (hinfo : '?' ∉ name.toList ∧ '?' ∉ pass.toList)
    (hhost : '?' ∉ host.text.toList) :
    ({ scheme, username := name, password := pass, host := some host, port } : Url).Delimited :=
  ⟨hs, hinfo.1, hinfo.2, by simpa using hhost, by simp [UrlPath.text]⟩

/-- A URL read after `//` is delimited. -/
theorem readAuthority_spec {scheme : String} (cs : List Char) (hs : '?' ∉ scheme.toList) :
    ⦃⌜True⌝⦄ readAuthority scheme cs ⦃⇓? u => ⌜u.Delimited⌝⦄ := by
  mvcgen [readAuthority, -Spec.throw_Except, Except.throw_spec]
  -- every result is the URL of the authority read, with a path read onto `/` or nothing,
  -- or with a query and fragment read
  all_goals
    try split_ifs
    first
    | exact withPath_delimited (authority_delimited hs ‹_› ‹_›) _ _ _ (by decide)
    | exact withQuery_delimited (authority_delimited hs ‹_› ‹_›) _ _

theorem readAuthority_delimited {scheme : String} {cs : List Char} {u : Url}
    (hs : '?' ∉ scheme.toList) (h : readAuthority scheme cs = .ok u) : u.Delimited :=
  Except.triple_iff.1 (readAuthority_spec cs hs) u h

/-- A `file` URL is delimited when its host is. -/
theorem fileUrl_delimited {host : Host} (hh : '?' ∉ host.text.toList) {start : List Char}
    (hs : '?' ∉ start) (hasHost : Bool) (input : List Char) :
    (fileUrl host start hasHost input).Delimited :=
  withPath_delimited (authority_delimited (by decide) (by decide) hh) true hasHost input hs

/-- A `file` URL read after `//` is delimited. -/
theorem readFileAuthority_spec (cs : List Char) :
    ⦃⌜True⌝⦄ readFileAuthority cs ⦃⇓? u => ⌜u.Delimited⌝⦄ := by
  mvcgen [readFileAuthority]
  all_goals exact fileUrl_delimited (by first | assumption | decide) (by decide) _ _

/-- After one slash, a `file` URL takes its host or drive letter from a delimited base. -/
theorem fileAfterSlash_delimited {base : Option Url} (hb : ∀ b ∈ base, b.Delimited)
    (rest cs : List Char) : (readFile.fileAfterSlash base rest cs).Delimited := by
  unfold readFile.fileAfterSlash
  dsimp only
  split
  · exact fileUrl_delimited (by decide) (by decide) false cs
  · split
    · rename_i b
      have hb' := hb b rfl
      have hfirst : '?' ∉ (b.pathChars.drop 1).takeWhile (· ≠ '/') := fun hq =>
        hb'.path (List.mem_of_mem_drop ((List.takeWhile_prefix _).subset hq))
      split_ifs
      · exact fileUrl_delimited (by simp [Host.text]) (by simpa using hfirst) false cs
      · refine fileUrl_delimited ?_ (by simp) false cs
        cases hh : b.host
        · decide
        · exact hb'.host _ hh
    · exact fileUrl_delimited (by decide) (by decide) false cs

/-- A `file` URL read against a delimited base is delimited. -/
theorem readFile_delimited {base : Option Url} {cs : List Char} {u : Url}
    (hb : ∀ b ∈ base, b.Delimited) (h : readFile base cs = .ok u) : u.Delimited := by
  unfold readFile at h
  split at h
  · split at h
    · split at h
      · split_ifs at h
        · exact Except.triple_iff.1 (readFileAuthority_spec _) u h
        · cases h
          exact fileAfterSlash_delimited hb _ _
      · cases h
        exact fileAfterSlash_delimited hb _ _
    · split at h
      · rename_i b
        have hb' := hb b rfl
        split at h
        · split at h
          cases h
          exact withQuery_delimited hb' _ _
        · split at h
          · split at h
            cases h
            exact withQuery_delimited hb' _ _
          · split at h
            · cases h
              exact withPath_delimited (withQuery_delimited hb' none none) true false _
                (UrlPath.question_not_mem_popSegment true hb'.path)
            · cases h
              exact fileUrl_delimited (by decide) (by decide) false _
      · cases h
        exact fileUrl_delimited (by decide) (by decide) false _
  · split at h
    · cases h
      exact withQuery_delimited (hb _ rfl) _ _
    · cases h
      exact fileUrl_delimited (by decide) (by decide) false _

/-- A URL read against a delimited base of a special scheme is delimited. -/
theorem readRelative_delimited {base : Url} (hb : base.Delimited) {cs : List Char} {u : Url}
    (h : readRelative base cs = .ok u) : u.Delimited := by
  unfold readRelative at h
  dsimp only at h
  split at h
  · cases h
    exact withQuery_delimited hb _ _
  · split at h
    · split at h
      · split at h <;> exact readAuthority_delimited hb.scheme h
      · cases h
        exact withPath_delimited (withQuery_delimited hb none none) false true _ (by decide)
    · split at h
      · cases h
        exact withQuery_delimited hb _ _
      · split at h
        · cases h
          exact withQuery_delimited hb _ _
        · cases h
          refine withPath_delimited (withQuery_delimited hb none none) false true _ ?_
          split
          · decide
          · exact UrlPath.question_not_mem_popSegment false hb.path

/-- A scheme is made of letters, digits, `+`, `-` and `.`. -/
theorem question_not_mem_splitScheme {cs rest : List Char} {scheme : String}
    (h : splitScheme cs = some (scheme, rest)) : '?' ∉ scheme.toList := by
  unfold splitScheme at h
  split at h
  · split at h
    · dsimp only at h
      split at h
      · cases h
        intro hq
        rw [asciiLower, String.toList_ofList, String.toList_ofList] at hq
        have := List.mem_takeWhile_imp (UrlPath.question_mem_lowerAscii hq)
        revert this
        decide
      · cases h
    · cases h
  · cases h

/-- Every URL read is delimited, when its base is. -/
theorem parse_delimited {s : String} {base : Option Url} {u : Url}
    (hb : ∀ b ∈ base, b.Delimited) (h : parse s base = .ok u) : u.Delimited := by
  unfold parse at h
  dsimp only at h
  split at h
  · rename_i scheme rest hsplit
    have hs := question_not_mem_splitScheme hsplit
    split at h
    · exact readFile_delimited (fun b hb' => hb b (Option.filter_eq_some_iff.1 hb').1) h
    · split at h
      · split at h
        · split at h
          · exact readRelative_delimited (hb _ rfl) h
          · exact readAuthority_delimited hs h
        · exact readAuthority_delimited hs h
      · split at h
        · exact readAuthority_delimited hs h
        · cases h
          exact withPath_delimited ⟨hs, by simp, by simp, by simp, by simp [UrlPath.text]⟩
            false false _ (by decide)
        · cases h
          -- an opaque path runs up to the first `?` and keeps it out
          refine ⟨hs, by simp, by simp, by simp, fun hq => ?_⟩
          simp only [UrlPath.text] at hq
          have hraw := (Percent.question_mem_encode hq).1
          rw [String.toList_ofList] at hraw
          have := List.mem_takeWhile_imp hraw
          revert this
          decide
  · split at h
    · cases h
    · split at h
      · cases h
        exact withQuery_delimited (hb _ rfl) _ _
      · split at h
        · cases h
        · split at h
          · exact readFile_delimited hb h
          · exact readRelative_delimited (hb _ rfl) h

/-- Adding query pairs keeps a URL delimited. -/
theorem appendPairs_delimited {u : Url} (hu : u.Delimited) (pairs : List (String × String)) :
    (u.appendPairs pairs).Delimited := by
  unfold appendPairs
  split <;> exact withQuery_delimited hu _ _

end Url

end FeatureFlags
