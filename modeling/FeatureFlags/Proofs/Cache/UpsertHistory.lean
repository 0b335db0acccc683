import Mathlib
import FeatureFlags.Proofs.Cache.Holding

/-!
# Histories of upserts

An entry keeps at most one record per set of vary keys: an upsert drops the record with
the vary keys of the new one and appends the new one. Over a whole history of upserts this
gives a closed form. The records are the original ones that no upsert replaced, in their
order, followed by the upserted records that no later upsert replaced, in the order of
their upserts (`List.pwFilter` keeps exactly those).

* `CacheEntry.find?_upsert`, `CacheEntry.pairwise_upsert`: one upsert, seen through a
  look-up and through the invariant;
* `CacheEntry.records_foldl_upsert`: the closed form of the records after any history;
* `CacheEntry.find?_foldl_upsert`: a look-up finds the last record upserted with its vary
  keys, else the original one;
* `CacheEntry.foldl_upsert_one_per_vary`: from an entry with distinct vary keys, every
  history keeps them distinct, and the look-up and the order are as above.
-/

namespace FeatureFlags

namespace CacheEntry

/-- The relation `List.pwFilter` keeps records by: different vary keys. -/
theorem varyNe_negTrans {x y z : CacheRecord} (h : x.vary ≠ z.vary) :
    x.vary ≠ y.vary ∨ y.vary ≠ z.vary := by
  by_cases hxy : x.vary = y.vary
  · exact .inr (hxy ▸ h)
  · exact .inl hxy

/-- A record stays in front of the later upserts exactly when none of them has its vary keys. -/
theorem pwFilter_vary_cons (r : CacheRecord) (rs : List CacheRecord) :
    (r :: rs).pwFilter (fun a b => a.vary ≠ b.vary) =
      if r.vary ∈ rs.map (·.vary) then rs.pwFilter (fun a b => a.vary ≠ b.vary)
      else r :: rs.pwFilter (fun a b => a.vary ≠ b.vary) := by
  have hkept := List.forall_mem_pwFilter (R := fun a b : CacheRecord => a.vary ≠ b.vary)
    varyNe_negTrans r rs
  split
  · rename_i hmem
    obtain ⟨b, hb, hvary⟩ := List.mem_map.1 hmem
    exact List.pwFilter_cons_of_neg fun hall => hkept.1 hall b hb hvary.symm
  · rename_i hmem
    refine List.pwFilter_cons_of_pos (hkept.2 fun b hb hvary => hmem ?_)
    exact List.mem_map.2 ⟨b, hb, hvary.symm⟩

@[simp] theorem records_upsert (e : CacheEntry) (r : CacheRecord) :
    (e.upsert r).records = e.records.filter (·.vary ≠ r.vary) ++ [r] := rfl

/-- After an upsert, the new record answers for its vary keys and the rest answer as before. -/
theorem find?_upsert (e : CacheEntry) (r : CacheRecord) (v : VaryKeys) :
    (e.upsert r).find? v = if r.vary = v then some r else e.find? v := by
  unfold find?
  rw [records_upsert, List.find?_append]
  split
  · rename_i hv
    -- No record left from before has the vary keys of the new one.
    rw [List.find?_eq_none.2 fun x hx => by simpa [← hv] using (List.mem_filter.1 hx).2]
    simp [hv]
  · rename_i hv
    rw [List.find?_filter_of_imp _ fun x hx => by
      simp only [decide_eq_true_eq] at hx ⊢
      exact hx ▸ Ne.symm hv]
    cases e.records.find? (·.vary = v) <;> simp [hv]

/-- An upsert keeps the vary keys of the records distinct. -/
theorem pairwise_upsert {e : CacheEntry} (r : CacheRecord)
    (he : e.records.Pairwise (fun a b => a.vary ≠ b.vary)) :
    (e.upsert r).records.Pairwise (fun a b => a.vary ≠ b.vary) := by
  rw [records_upsert, List.pairwise_append]
  refine ⟨he.filter _, List.pairwise_singleton _ _, fun a ha b hb => ?_⟩
  rw [List.mem_singleton.1 hb]
  simpa using (List.mem_filter.1 ha).2

/-- An original record untouched by an upsert and then by later ones is one untouched by
    them all. -/
theorem filter_untouched_cons (l : List CacheRecord) (r : CacheRecord) (rs : List CacheRecord) :
    (l.filter (·.vary ≠ r.vary)).filter (fun x => x.vary ∉ rs.map (·.vary)) =
      l.filter (fun x => x.vary ∉ (r :: rs).map (·.vary)) := by
  rw [List.filter_filter]
  refine List.filter_congr fun x _ => ?_
  by_cases hx : x.vary = r.vary <;> simp [hx]

/-- The records after a history of upserts: the untouched original ones, then each upserted
    record that no later upsert replaced, in the order of the upserts. -/
theorem records_foldl_upsert (rs : List CacheRecord) (e : CacheEntry) :
    (rs.foldl upsert e).records =
      e.records.filter (fun r => r.vary ∉ rs.map (·.vary)) ++
        rs.pwFilter (fun a b => a.vary ≠ b.vary) := by
  induction rs generalizing e with
  | nil => simp
  | cons r rs ih =>
    rw [List.foldl_cons, ih, records_upsert, List.filter_append, filter_untouched_cons,
      pwFilter_vary_cons, List.append_assoc]
    -- The first upsert survives exactly when no later one has its vary keys.
    by_cases hr : r.vary ∈ rs.map (·.vary)
    · simp only [hr, if_true, List.filter_singleton, not_true_eq_false, decide_false,
        cond_false, List.nil_append]
    · simp only [hr, if_false, List.filter_singleton, not_false_eq_true, decide_true,
        cond_true, List.singleton_append]

/-- After a history of upserts, a look-up finds the last record upserted with its vary keys,
    and the original record when none was. -/
theorem find?_foldl_upsert (rs : List CacheRecord) (e : CacheEntry) (v : VaryKeys) :
    (rs.foldl upsert e).find? v = (rs.reverse.find? (·.vary = v)).or (e.find? v) := by
  induction rs generalizing e with
  | nil => simp
  | cons r rs ih =>
    -- The first upsert is the oldest: it answers only when no later upsert does.
    rw [List.foldl_cons, ih, find?_upsert, List.reverse_cons, List.find?_append]
    by_cases hv : r.vary = v <;> simp [hv]

/-- A history of upserts keeps one record per set of vary keys: a look-up finds the newest
    record of its vary keys, and the records are the untouched original ones followed by the
    upserted ones that survive, in the order of their upserts. -/
theorem foldl_upsert_one_per_vary (e : CacheEntry) (rs : List CacheRecord)
    (he : e.records.Pairwise (fun a b => a.vary ≠ b.vary)) :
    (rs.foldl upsert e).records.Pairwise (fun a b => a.vary ≠ b.vary) ∧
      (∀ v, (rs.foldl upsert e).find? v = (rs.reverse.find? (·.vary = v)).or (e.find? v)) ∧
      (rs.foldl upsert e).records =
        e.records.filter (fun r => r.vary ∉ rs.map (·.vary)) ++
          rs.pwFilter (fun a b => a.vary ≠ b.vary) := by
  refine ⟨?_, find?_foldl_upsert rs e, records_foldl_upsert rs e⟩
  rw [records_foldl_upsert, List.pairwise_append]
  refine ⟨he.filter _, List.pairwise_pwFilter _, fun a ha b hb hab => ?_⟩
  -- An untouched record has vary keys that no upsert has.
  have ha' : a.vary ∉ rs.map (·.vary) := by simpa using (List.mem_filter.1 ha).2
  exact ha' (List.mem_map.2 ⟨b, List.pwFilter_subset _ hb, hab.symm⟩)

/-- A record for `GET /flags/` with a one-byte body, chosen by the `accept` header. -/
def flagsRecord (body : UInt8) (accept : String) : CacheRecord :=
  { (default : CacheRecord) with
    url := "http://h/flags/"
    body := [body]
    vary := ⟨[("accept", accept)]⟩ }

/-- An entry holding a record for JSON, one for XML and one for HTML. -/
def threeFormats : CacheEntry :=
  ⟨[flagsRecord 1 "json", flagsRecord 2 "xml", flagsRecord 3 "html"]⟩

/-- Upserts of a record for JSON, one for XML and a last one for JSON. -/
def threeUpserts : List CacheRecord :=
  [flagsRecord 4 "json", flagsRecord 5 "xml", flagsRecord 6 "json"]

theorem foldl_upsert_one_per_vary_threeFormats :
    threeFormats.records.Pairwise (fun a b => a.vary ≠ b.vary) ∧
      (threeUpserts.foldl upsert threeFormats).records.Pairwise (fun a b => a.vary ≠ b.vary) ∧
      (∀ v, (threeUpserts.foldl upsert threeFormats).find? v =
        (threeUpserts.reverse.find? (·.vary = v)).or (threeFormats.find? v)) ∧
      (threeUpserts.foldl upsert threeFormats).records =
        threeFormats.records.filter (fun r => r.vary ∉ threeUpserts.map (·.vary)) ++
          threeUpserts.pwFilter (fun a b => a.vary ≠ b.vary) :=
  have he : threeFormats.records.Pairwise (fun a b => a.vary ≠ b.vary) := by
    simp [threeFormats, flagsRecord]
  ⟨he, foldl_upsert_one_per_vary threeFormats threeUpserts he⟩

/-- The HTML record, which no upsert replaced, stays first; the XML and the last JSON
    record follow in the order of their upserts. -/
example : (threeUpserts.foldl upsert threeFormats).records =
    [flagsRecord 3 "html", flagsRecord 5 "xml", flagsRecord 6 "json"] := by
  decide +kernel

end CacheEntry

end FeatureFlags
