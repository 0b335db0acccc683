import Mathlib
import FeatureFlags.Proofs.Service.Recency
import FeatureFlags.Proofs.Cache.Decoded

/-!
# Which answers are kept, and which requests a record serves

An answer is kept unless one of its headers forbids it: a `cache-control` header with the
directive `no-store`, or a `vary` header with the field `*`. Both are read as items
separated by commas, with blanks trimmed; the directive is compared up to ASCII case. The
vary keys of a kept answer map each field named by its `vary` headers, in ASCII small
letters, to the value its request sent for that header, or to the empty text when it sent
none. A record serves a request exactly when the request sent, for each name of the
record's vary keys, the value the record holds for it.

Vary keys are read as a map through `VaryKeys.get?`, the value of the first pair with a
name. Inserting a pair changes the value of its own name only (`VaryKeys.get?_insert`), so
the vary keys collected from the headers in turn give each field named the value sent, and
every other name the value it had before. Names are kept in increasing order, each once, so
every pair is the first of its name (`VaryKeys.get?_of_mem`), and a record's vary keys fit
the headers sent exactly when the map agrees with them.

* `varyKeys?_eq_none_iff`: when an answer is not kept;
* `varyKeys?_get?`: the map of a kept answer;
* `VaryKeys.fits_iff_get?`: which requests a record serves, read on the map;
* `varyKeys?_agrees_with_fits`: the three together, and the vary keys of an answer serve its
  own request;
* `ServiceClient.KeepsRecord.wellFormed`: a record a call keeps over the folder is one the
  folder holds whole, when the clock readings are in range and the status fits 16 bits.
-/

namespace FeatureFlags

/-- The names an answer varies on: the non-empty fields of its `vary` headers, in ASCII
    small letters. -/
def varyNames (headers : List (String × String)) : List String :=
  headers.flatMap fun h =>
    if sameHeaderName h.1 "vary" then ((headerItems h.2).filter (!·.isEmpty)).map asciiLower
    else []

@[simp] theorem varyNames_nil : varyNames [] = [] := rfl

theorem varyNames_cons (h : List (String × String)) (name value : String) :
    varyNames ((name, value) :: h) =
      (if sameHeaderName name "vary" then
        ((headerItems value).filter (!·.isEmpty)).map asciiLower else []) ++ varyNames h :=
  List.flatMap_cons

theorem forbidsStoring_iff (name value : String) :
    forbidsStoring name value = true ↔
      sameHeaderName name "cache-control" = true ∧
        ∃ d ∈ headerItems value, sameHeaderName d "no-store" = true := by
  simp [forbidsStoring, List.any_eq_true]

namespace VaryKeys

/-- Inserting a pair gives its name the new value, and keeps the value of every other
    name. -/
theorem find?_insert_go (name value n : String) (l : List (String × String)) :
    ((insert.go name value l).find? (·.1 == n)).map (·.2) =
      if n = name then some value else (l.find? (·.1 == n)).map (·.2) := by
  induction l with
  | nil => by_cases h : n = name <;> simp [insert.go, h, Ne.symm]
  | cons p rest ih =>
    obtain ⟨k, v⟩ := p
    simp only [insert.go]
    split
    · by_cases h : n = name <;> simp [h, Ne.symm]
    · split
      · -- The pair of the same name is replaced.
        rename_i hk
        subst hk
        by_cases h : n = name <;> simp [h, Ne.symm]
      · rename_i hne
        by_cases hkn : k = n
        · subst hkn
          simp [Ne.symm hne]
        · simp [hkn, ih]

theorem get?_insert (vk : VaryKeys) (name value n : String) :
    (vk.insert name value).get? n = if n = name then some value else vk.get? n :=
  find?_insert_go name value n vk.pairs

/-- With names in increasing order, each pair is the first of its name. -/
theorem get?_of_mem {vk : VaryKeys} (h : vk.pairs.Pairwise fun a b => a.1 < b.1)
    {p : String × String} (hp : p ∈ vk.pairs) : vk.get? p.1 = some p.2 := by
  obtain ⟨pairs⟩ := vk
  simp only [get?] at h hp ⊢
  induction pairs with
  | nil => cases hp
  | cons q rest ih =>
    rw [List.pairwise_cons] at h
    rcases List.mem_cons.1 hp with rfl | hp
    · simp
    · -- An earlier pair has a smaller name, so the search passes it.
      have hne : q.1 ≠ p.1 := fun he => String.lt_irrefl p.1 (he ▸ h.1 p hp)
      simp [hne, ih h.2 hp]

/-- A record serves a request exactly when, for each name of its vary keys, the request sent
    the value the record holds. -/
theorem fits_iff_get? {vk : VaryKeys} (h : vk.pairs.Pairwise fun a b => a.1 < b.1)
    (sent : VaryKeys) :
    vk.fits sent = true ↔ ∀ n ∈ vk.pairs.map Prod.fst, vk.get? n = some (sent.sent n) := by
  rw [fits_iff]
  constructor
  · intro hfits n hn
    obtain ⟨p, hp, rfl⟩ := List.mem_map.1 hn
    rw [get?_of_mem h hp, hfits p hp]
  · intro hget p hp
    have hn := hget p.1 (List.mem_map_of_mem hp)
    rw [get?_of_mem h hp] at hn
    exact Option.some.inj hn

end VaryKeys

/-! ### The fields of one `vary` header -/

section Fields

variable (sent : VaryKeys)

theorem addVaryFields_eq_none_iff (fields : List String) :
    ∀ keys, addVaryFields sent fields keys = none ↔ "*" ∈ fields := by
  induction fields with
  | nil => simp [addVaryFields]
  | cons field rest ih =>
    intro keys
    simp only [addVaryFields]
    split_ifs with hempty hstar
    · -- An empty field is not `*`.
      rw [ih, List.mem_cons]
      have : field = "" := String.isEmpty_iff.1 hempty
      simp [this]
    · simp [beq_iff_eq.1 hstar]
    · rw [ih, List.mem_cons]
      simp only [beq_iff_eq] at hstar
      simp [Ne.symm hstar]

theorem addVaryFields_get? (fields : List String) :
    ∀ {keys vary : VaryKeys}, addVaryFields sent fields keys = some vary → ∀ n,
      vary.get? n = if n ∈ (fields.filter (!·.isEmpty)).map asciiLower then some (sent.sent n)
        else keys.get? n := by
  induction fields with
  | nil =>
    intro keys vary h n
    cases h
    simp
  | cons field rest ih =>
    intro keys vary h n
    simp only [addVaryFields] at h
    split_ifs at h with hempty hstar
    · rw [ih h n, List.filter_cons_of_neg (by simp [hempty])]
    · rw [ih h n, VaryKeys.get?_insert, List.filter_cons_of_pos (by simp [hempty]),
        List.map_cons]
      -- The name of this field takes the value sent, as do the names of the later ones.
      by_cases hrest : n ∈ (rest.filter (!·.isEmpty)).map asciiLower
      · simp [hrest]
      · by_cases hn : n = asciiLower field
        · simp [hn]
        · simp [hrest, hn]

theorem addVaryFields_pairwise (fields : List String) :
    ∀ {keys vary : VaryKeys}, keys.pairs.Pairwise (fun a b => a.1 < b.1) →
      addVaryFields sent fields keys = some vary → vary.pairs.Pairwise fun a b => a.1 < b.1 := by
  induction fields with
  | nil =>
    intro keys vary hk h
    cases h
    exact hk
  | cons field rest ih =>
    intro keys vary hk h
    simp only [addVaryFields] at h
    split_ifs at h
    · exact ih hk h
    · exact ih (VaryKeys.pairwise_insert_go hk) h

end Fields

/-! ### The headers of an answer -/

section Headers

variable (sent : VaryKeys)

/-- An answer is not kept exactly when one of its headers forbids storing it, or is a `vary`
    header with the field `*`. -/
theorem varyKeys?_eq_none_iff (headers : List (String × String)) :
    ∀ keys, varyKeys? sent headers keys = none ↔
      ∃ p ∈ headers, forbidsStoring p.1 p.2 = true ∨
        (sameHeaderName p.1 "vary" = true ∧ "*" ∈ headerItems p.2) := by
  induction headers with
  | nil => simp [varyKeys?]
  | cons header rest ih =>
    obtain ⟨name, value⟩ := header
    intro keys
    simp only [varyKeys?]
    split_ifs with hforbid hvary
    · simp [hforbid]
    · cases hfields : addVaryFields sent (headerItems value) keys with
      | none =>
        -- The `vary` header names `*`.
        have hstar := (addVaryFields_eq_none_iff sent _ keys).1 hfields
        simp only [Option.bind_none, true_iff]
        exact ⟨(name, value), List.mem_cons_self, .inr ⟨hvary, hstar⟩⟩
      | some keys' =>
        have hstar : "*" ∉ headerItems value := fun h =>
          absurd ((addVaryFields_eq_none_iff sent _ keys).2 h) (by simp [hfields])
        simp [ih keys', hforbid, hstar]
    · simp [ih keys, hforbid, hvary]

theorem varyKeys?_get? (headers : List (String × String)) :
    ∀ {keys vary : VaryKeys}, varyKeys? sent headers keys = some vary → ∀ n,
      vary.get? n = if n ∈ varyNames headers then some (sent.sent n) else keys.get? n := by
  induction headers with
  | nil =>
    intro keys vary h n
    cases h
    simp
  | cons header rest ih =>
    obtain ⟨name, value⟩ := header
    intro keys vary h n
    simp only [varyKeys?] at h
    split_ifs at h with hforbid hvary
    · obtain ⟨keys', hk, h⟩ := Option.bind_eq_some_iff.1 h
      rw [ih h n, addVaryFields_get? sent _ hk n, varyNames_cons, if_pos hvary]
      -- The names of this header come before those of the later ones.
      by_cases hrest : n ∈ varyNames rest
      · simp only [hrest, if_true, List.mem_append, or_true]
      · simp only [hrest, if_false, List.mem_append, or_false]
    · rw [ih h n, varyNames_cons, if_neg hvary, List.nil_append]

theorem varyKeys?_pairwise (headers : List (String × String)) :
    ∀ {keys vary : VaryKeys}, keys.pairs.Pairwise (fun a b => a.1 < b.1) →
      varyKeys? sent headers keys = some vary → vary.pairs.Pairwise fun a b => a.1 < b.1 := by
  induction headers with
  | nil =>
    intro keys vary hk h
    cases h
    exact hk
  | cons header rest ih =>
    obtain ⟨name, value⟩ := header
    intro keys vary hk h
    simp only [varyKeys?] at h
    split_ifs at h
    · obtain ⟨keys', hk', h⟩ := Option.bind_eq_some_iff.1 h
      exact ih (addVaryFields_pairwise sent _ hk hk') h
    · exact ih hk h

end Headers

/-- The vary keys of an answer and the records' fit agree. An answer is not kept exactly
    when a `cache-control` header has the directive `no-store` or a `vary` header the field
    `*`. Otherwise its vary keys map each name it varies on, and no other, to the value its
    request sent (the empty text when not sent), names in increasing order, and they serve
    that request. A record serves a request exactly when the request sent, for each name of
    the record's vary keys, the value the record holds. -/
theorem varyKeys?_agrees_with_fits (headers : List (String × String)) (sent : VaryKeys) :
    (varyKeys? sent headers {} = none ↔
        ∃ p ∈ headers, (sameHeaderName p.1 "cache-control" = true ∧
            ∃ d ∈ headerItems p.2, sameHeaderName d "no-store" = true) ∨
          (sameHeaderName p.1 "vary" = true ∧ "*" ∈ headerItems p.2)) ∧
      (∀ vary, varyKeys? sent headers {} = some vary →
        vary.pairs.Pairwise (fun a b => a.1 < b.1) ∧
          (∀ n, vary.get? n = if n ∈ varyNames headers then some (sent.sent n) else none) ∧
          vary.fits sent = true) ∧
      ∀ vk : VaryKeys, vk.pairs.Pairwise (fun a b => a.1 < b.1) →
        (vk.fits sent = true ↔ ∀ n ∈ vk.pairs.map Prod.fst, vk.get? n = some (sent.sent n)) := by
  refine ⟨?_, fun vary h => ⟨?_, fun n => ?_, ?_⟩, fun vk hvk => VaryKeys.fits_iff_get? hvk sent⟩
  · simp only [varyKeys?_eq_none_iff sent headers {}, forbidsStoring_iff]
  · exact varyKeys?_pairwise sent headers List.Pairwise.nil h
  · rw [varyKeys?_get? sent headers h n]
    rfl
  · exact varyKeys?_fits rfl h

/-! ### Records kept in the folder -/

/-- A record a call keeps over a folder store is well-formed, so that the folder holds it
    whole, when the clock readings lie in the calendar range and the status fits in 16 bits:
    its key is a key text, the vary keys of an answer are in name order, and a renewed record
    was read from the folder. -/
theorem ServiceClient.KeepsRecord.wellFormed {c : ServiceClient} {transport : Transport}
    {now : Instant} {r : ApiRequest} {options : RequestOptions} {s : FileStore} {url : Url}
    {store₁ : ResponseStore} {record : CacheRecord}
    (h : c.KeepsRecord transport now r options (.file s) url store₁ record)
    (hnow : now.InRange) (hresponse : record.responseTime.InRange)
    (hstatus : record.status < 2 ^ 16) : record.WellFormed := by
  cases h with
  | answer hsent hreply haccept hnm hvary =>
    exact ⟨CacheKey.isKeyText_ofRequest _ _, hstatus, hnow, hresponse,
      Instant.inRange_addSpan hresponse _, varyKeys?_pairwise _ _ List.Pairwise.nil hvary⟩
  | @notModified looked _ reply hlook hstale hreply hnm =>
    -- The record renewed was looked up in the folder, which holds only well-formed ones.
    have hmem : looked ∈ ResponseStore.held (.file s) (.ofRequest "GET" url) :=
      ServiceClient.mem_held_of_lookupUnlessForced (by rw [hlook])
    rw [ResponseStore.held_file] at hmem
    exact ServiceClient.wellFormed_renewed (FileStore.recordsIn_wellFormed _ _ _ hmem).1 hnow
      hresponse _

end FeatureFlags
