import Mathlib
import FeatureFlags.Proofs.Web.QueryStart
import FeatureFlags.Cache.Key
import FeatureFlags.Service.Client

/-!
# Requests of one key

The key of a request is the MD5 of its method in ASCII capitals and its canonical URL: the
URL without its fragment, with its query pairs sorted by name and then value and
form-encoded again, and with no query when it has no pairs. Its text is the text of the URL
before the query, then `?` and the sorted pairs when there are some (`CacheKey.canonical_eq`).
Form encoding reads back (`Form.parse_serialize`) and writes no `?`, so the last `?` of a
canonical text starts its query; in a delimited URL, as every URL read is, so does the
first.

* `CacheKey.canonical_eq_iff`: two delimited URLs have one canonical text exactly when their
  texts before the query are one and their query pairs sort alike;
* `CacheKey.mergeSort_pairLE_eq_iff`: two lists of pairs sort alike exactly when one is the
  other in some order;
* `CacheKey.ofRequest_eq_of_perm`, `CacheKey.ofRequest_withFragment`: reordering the query
  pairs or changing the fragment keeps the key of every URL;
* `CacheKey.canonical_ne_of_value_ne`: changing the value of one query pair changes the
  canonical text of every URL;
* `ServiceClient.canonical_urlFor_eq_iff`: the URLs a client made from settings asks for are
  delimited, so the first result holds of them.
-/

namespace FeatureFlags

/-- Two lists split at an `a` with no `a` after it are split alike. -/
theorem List.eq_of_append_cons_of_not_mem {α : Type} [DecidableEq α] {x₁ x₂ z₁ z₂ : List α}
    {a : α} (h₁ : a ∉ z₁) (h₂ : a ∉ z₂) (h : x₁ ++ a :: z₁ = x₂ ++ a :: z₂) :
    x₁ = x₂ ∧ z₁ = z₂ := by
  -- read from the end, the part after the last `a` is what comes before the first `a`
  have hlast (x z : List α) (hz : a ∉ z) :
      (x ++ a :: z).reverse.takeWhile (· ≠ a) = z.reverse := by
    rw [List.reverse_append, List.reverse_cons, List.append_assoc, List.singleton_append,
      List.takeWhile_append_of_pos fun b hb => by
        simpa using fun hba : b = a => hz (hba ▸ List.mem_reverse.1 hb)]
    simp
  have hz : z₁ = z₂ := by
    have h' := hlast x₁ z₁ h₁
    rw [h, hlast x₂ z₂ h₂] at h'
    exact List.reverse_inj.1 h'.symm
  subst hz
  exact ⟨List.append_cancel_right h, rfl⟩

theorem Url.text_withQuery (u : Url) (q : String) :
    ({ u with query := some q, fragment := none } : Url).text =
      u.beforeQuery.text ++ "?" ++ q := by
  simp only [Url.text, Url.beforeQuery, String.append_empty, String.append_assoc]
  rfl

theorem Form.serialize_injective {l l' : List (String × String)}
    (h : Form.serialize l = Form.serialize l') : l = l' := by
  rw [← Form.parse_serialize l, h, Form.parse_serialize]

namespace CacheKey

/-! ### The order of pairs -/

theorem pairLE_total (a b : String × String) : (pairLE a b || pairLE b a) = true := by
  simp only [pairLE, Bool.or_eq_true, Bool.and_eq_true, decide_eq_true_eq]
  rcases lt_trichotomy a.1 b.1 with h | h | h
  · exact .inl (.inl h)
  · rcases String.le_total a.2 b.2 with h' | h'
    · exact .inl (.inr ⟨h, h'⟩)
    · exact .inr (.inr ⟨h.symm, h'⟩)
  · exact .inr (.inl h)

theorem pairLE_trans {a b c : String × String} (hab : pairLE a b = true)
    (hbc : pairLE b c = true) : pairLE a c = true := by
  simp only [pairLE, Bool.or_eq_true, Bool.and_eq_true, decide_eq_true_eq] at *
  rcases hab with hab | ⟨hab, hab'⟩ <;> rcases hbc with hbc | ⟨hbc, hbc'⟩
  · exact .inl (String.lt_trans hab hbc)
  · exact .inl (hbc ▸ hab)
  · exact .inl (hab ▸ hbc)
  · exact .inr ⟨hab.trans hbc, String.le_trans hab' hbc'⟩

/-- The order of pairs is antisymmetric: it compares the whole pair. -/
theorem eq_of_pairLE {a b : String × String} (hab : pairLE a b = true)
    (hba : pairLE b a = true) : a = b := by
  simp only [pairLE, Bool.or_eq_true, Bool.and_eq_true, decide_eq_true_eq] at hab hba
  rcases hab with hab | ⟨hab, hab'⟩ <;> rcases hba with hba | ⟨hba, hba'⟩
  · exact absurd hba (String.lt_asymm hab)
  · exact absurd (hba ▸ hab) (String.lt_irrefl _)
  · exact absurd (hab ▸ hba) (String.lt_irrefl _)
  · exact Prod.ext hab (String.le_antisymm hab' hba')

/-- Two lists of pairs sort alike exactly when one is the other in some order. -/
theorem mergeSort_pairLE_eq_iff {l l' : List (String × String)} :
    l.mergeSort pairLE = l'.mergeSort pairLE ↔ l.Perm l' := by
  constructor
  · intro h
    exact (List.mergeSort_perm l pairLE).symm.trans (h ▸ List.mergeSort_perm l' pairLE)
  · intro h
    have hsorted := List.pairwise_mergeSort (fun a b c => @pairLE_trans a b c) pairLE_total
    refine List.Perm.eq_of_pairwise (fun a b _ _ hab hba => eq_of_pairLE hab hba) (hsorted l)
      (hsorted l') ?_
    exact (List.mergeSort_perm l pairLE).trans (h.trans (List.mergeSort_perm l' pairLE).symm)

theorem mergeSort_pairLE_eq_nil {l : List (String × String)} (h : l.mergeSort pairLE = []) :
    l = [] :=
  List.eq_nil_of_length_eq_zero ((List.mergeSort_perm l pairLE).length_eq ▸ by simp [h])

/-! ### The canonical text -/

/-- The canonical text: the text before the query, then the sorted pairs if there are any. -/
theorem canonical_eq (u : Url) :
    canonical u = if u.queryPairs = [] then u.beforeQuery.text
      else u.beforeQuery.text ++ "?" ++ Form.serialize (u.queryPairs.mergeSort pairLE) := by
  show (if u.queryPairs.isEmpty then u.beforeQuery.text
    else ({ u with query := some _, fragment := none } : Url).text) = _
  rw [Url.text_withQuery]
  simp only [List.isEmpty_iff]
  rfl

/-- A text followed by `?` and a part without `?` is split there alike. -/
theorem append_question_inj {s t s' t' : String} (ht : '?' ∉ t.toList)
    (ht' : '?' ∉ t'.toList) (h : s ++ "?" ++ t = s' ++ "?" ++ t') : s = s' ∧ t = t' := by
  have h' := congrArg String.toList h
  simp only [String.toList_append, List.append_assoc] at h'
  obtain ⟨hs, ht⟩ := List.eq_of_append_cons_of_not_mem ht ht' h'
  exact ⟨String.ext hs, String.ext ht⟩

/-- A delimited URL without query pairs has another canonical text than a URL with some,
    and their pairs do not sort alike: the `?` of the other would stand in its text before
    the query. -/
theorem canonical_ne_of_queryPairs_nil {u v : Url} (hu : u.Delimited)
    (hpu : u.queryPairs = []) (hpv : v.queryPairs ≠ []) :
    canonical u ≠ canonical v ∧
      u.queryPairs.mergeSort pairLE ≠ v.queryPairs.mergeSort pairLE := by
  rw [canonical_eq, canonical_eq, if_pos hpu, if_neg hpv, hpu, List.mergeSort_nil]
  exact ⟨fun h => hu.question_not_mem_beforeQuery (by simp [h]),
    fun h => hpv (mergeSort_pairLE_eq_nil h.symm)⟩

/-- Two delimited URLs have one canonical text exactly when they have one text before the
    query and their query pairs sort alike. -/
theorem canonical_eq_iff {u v : Url} (hu : u.Delimited) (hv : v.Delimited) :
    canonical u = canonical v ↔
      u.beforeQuery.text = v.beforeQuery.text ∧
        u.queryPairs.mergeSort pairLE = v.queryPairs.mergeSort pairLE := by
  by_cases hpu : u.queryPairs = [] <;> by_cases hpv : v.queryPairs = []
  · simp [canonical_eq, hpu, hpv]
  · obtain ⟨hc, hs⟩ := canonical_ne_of_queryPairs_nil hu hpu hpv
    exact iff_of_false hc fun h => hs h.2
  · obtain ⟨hc, hs⟩ := canonical_ne_of_queryPairs_nil hv hpv hpu
    exact iff_of_false (Ne.symm hc) fun h => hs h.2.symm
  · -- both have a query, which starts at the last `?` of each text
    rw [canonical_eq, canonical_eq, if_neg hpu, if_neg hpv]
    constructor
    · intro h
      obtain ⟨hb, hs⟩ := append_question_inj (Form.question_not_mem_serialize _)
        (Form.question_not_mem_serialize _) h
      exact ⟨hb, Form.serialize_injective hs⟩
    · rintro ⟨hb, hs⟩
      rw [hb, hs]

/-- The key of a request is fixed by its method in capitals and its canonical URL, and two
    delimited URLs have one canonical URL exactly when they agree with their fragments
    dropped and their queries replaced by their sorted pairs. -/
theorem ofRequest_determined_by_canonical {u v : Url} (hu : u.Delimited) (hv : v.Delimited) :
    (∀ m m' : String, asciiUpper m = asciiUpper m' → canonical u = canonical v →
      ofRequest m u = ofRequest m' v) ∧
    (canonical u = canonical v ↔
      u.beforeQuery.text = v.beforeQuery.text ∧
        u.queryPairs.mergeSort pairLE = v.queryPairs.mergeSort pairLE) := by
  refine ⟨fun m m' hm hc => ?_, canonical_eq_iff hu hv⟩
  rw [ofRequest, ofRequest, hm, hc]

/-- The flags URL of a service with the query `b=2&a=1`. -/
def flagsQueryBA : Url :=
  { scheme := "https", host := some (.domain "x"), path := .segments ["api", "v1", "flags", ""],
    query := some "b=2&a=1" }

/-- The same URL with the query `a=1&b=2`. -/
def flagsQueryAB : Url := { flagsQueryBA with query := some "a=1&b=2" }

theorem ofRequest_determined_by_canonical_reordered :
    (flagsQueryBA.Delimited ∧ flagsQueryAB.Delimited) ∧
      ((∀ m m' : String, asciiUpper m = asciiUpper m' →
        canonical flagsQueryBA = canonical flagsQueryAB →
          ofRequest m flagsQueryBA = ofRequest m' flagsQueryAB) ∧
      (canonical flagsQueryBA = canonical flagsQueryAB ↔
        flagsQueryBA.beforeQuery.text = flagsQueryAB.beforeQuery.text ∧
          flagsQueryBA.queryPairs.mergeSort pairLE = flagsQueryAB.queryPairs.mergeSort pairLE)) :=
  have hBA : flagsQueryBA.Delimited :=
    ⟨by decide, by decide, by decide, by simp [flagsQueryBA, Host.text], by decide⟩
  have hAB : flagsQueryAB.Delimited :=
    ⟨by decide, by decide, by decide, by simp [flagsQueryAB, flagsQueryBA, Host.text], by decide⟩
  ⟨⟨hBA, hAB⟩, ofRequest_determined_by_canonical hBA hAB⟩

/-! ### What a key does not see, and what it does -/

/-- Reordering the query pairs keeps the canonical text. -/
theorem canonical_eq_of_perm {u v : Url} (hb : u.beforeQuery.text = v.beforeQuery.text)
    (hp : u.queryPairs.Perm v.queryPairs) : canonical u = canonical v := by
  have hnil : u.queryPairs = [] ↔ v.queryPairs = [] := by
    rw [← List.length_eq_zero_iff, hp.length_eq, List.length_eq_zero_iff]
  simp only [canonical_eq, hb, mergeSort_pairLE_eq_iff.2 hp, hnil]

theorem ofRequest_eq_of_perm (method : String) {u v : Url}
    (hb : u.beforeQuery.text = v.beforeQuery.text) (hp : u.queryPairs.Perm v.queryPairs) :
    ofRequest method u = ofRequest method v := by
  rw [ofRequest, ofRequest, canonical_eq_of_perm hb hp]

theorem ofRequest_withFragment (method : String) (u : Url) (fragment : Option String) :
    ofRequest method { u with fragment } = ofRequest method u := rfl

/-- Changing the value of one query pair changes the canonical text. -/
theorem canonical_ne_of_value_ne {u v : Url} {pre post : List (String × String)}
    {name x y : String} (hu : u.queryPairs = pre ++ (name, x) :: post)
    (hv : v.queryPairs = pre ++ (name, y) :: post) (hxy : x ≠ y) :
    canonical u ≠ canonical v := by
  intro h
  rw [canonical_eq, canonical_eq, hu, hv] at h
  simp only [List.append_eq_nil_iff, reduceCtorEq, and_false, if_false] at h
  obtain ⟨-, hs⟩ := append_question_inj (Form.question_not_mem_serialize _)
    (Form.question_not_mem_serialize _) h
  -- the sorted pairs would be one, yet `(name, x)` is one pair fewer in those of `v`
  have hcount := (mergeSort_pairLE_eq_iff.1 (Form.serialize_injective hs)).count_eq (name, x)
  simp [List.count_append, List.count_cons] at hcount
  exact hxy hcount.symm

end CacheKey

namespace ServiceClient

/-- A client with a delimited API URL asks for delimited URLs. -/
theorem urlFor_delimited {c : ServiceClient} (hc : c.baseUrl.Delimited) {r : ApiRequest}
    {u : Url} (h : c.urlFor r = .ok u) : u.Delimited := by
  unfold urlFor at h
  split at h
  · rename_i v hv
    cases h
    have hv' := Url.parse_delimited (by simpa using hc) hv
    split
    · exact hv'
    · exact Url.appendPairs_delimited hv' _
  · cases h

/-- The API URL of a client made from settings is read, so it is delimited. -/
theorem ofSettings_delimited {settings : ClientSettings} {store : Option ResponseStore}
    {c : ServiceClient} (h : ofSettings settings store = .ok c) : c.baseUrl.Delimited := by
  unfold ofSettings at h
  split at h
  · rename_i baseUrl hbase
    cases h
    unfold ClientSettings.apiUrl ClientSettings.parseBaseUrl at hbase
    dsimp only at hbase
    generalize (if settings.baseUrl.endsWith "/" then settings.baseUrl
      else settings.baseUrl ++ "/") = s at hbase
    split at hbase
    · rename_i hparse
      cases hbase
      exact Url.parse_delimited (by simp) hparse
    · cases hbase
  · cases h

/-- Two requests of a client made from settings have one canonical URL exactly when their
    URLs have one text before the query and their query pairs sort alike. -/
theorem canonical_urlFor_eq_iff {settings : ClientSettings} {store : Option ResponseStore}
    {c : ServiceClient} (hc : ofSettings settings store = .ok c) {r r' : ApiRequest}
    {u u' : Url} (hu : c.urlFor r = .ok u) (hu' : c.urlFor r' = .ok u') :
    CacheKey.canonical u = CacheKey.canonical u' ↔
      u.beforeQuery.text = u'.beforeQuery.text ∧
        u.queryPairs.mergeSort CacheKey.pairLE = u'.queryPairs.mergeSort CacheKey.pairLE :=
  CacheKey.canonical_eq_iff (urlFor_delimited (ofSettings_delimited hc) hu)
    (urlFor_delimited (ofSettings_delimited hc) hu')

end ServiceClient

end FeatureFlags
