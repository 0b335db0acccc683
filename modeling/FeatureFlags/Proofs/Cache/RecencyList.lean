import FeatureFlags.Cache.Memory
import FeatureFlags.Proofs.Cache.Holding

/-!
# The in-memory store is a recency list within its budget

The in-memory store keeps a running count of the bytes it holds and evicts by that count.
What it means to hold is simpler: a `RecencyList`, the entries by key from least to most
recently used, whose size is always the sum of the sizes of the entries. Storing a record
removes its key, appends the key's entry with the record upserted as the most recent, and
then drops least recently used entries one by one while the entries are over the budget; a
look-up makes its key the most recent; invalidation empties the list.

The store refines the list. A store is `Accounted` when its keys are distinct and its count
is the size of its entries; an accounted store answers every call as its list does, moves
to the list's next state, and stays accounted. The empty store is accounted, so this holds
after every sequence of calls.

* `MemoryStore.evict_eq_trim`: eviction by the running count is trimming by the size;
* `RecencyList.trim_append_of_le`, `RecencyList.trim_append_of_lt`: trimming with the newest
  entry last keeps it when it alone fits the budget, and otherwise drops everything;
* `MemoryStore.call_refines`: one call on an accounted store, answered as the list does;
* `MemoryStore.answerAll_refines`: every history, with the budget kept after every store.
-/

namespace FeatureFlags

/-- A call on a response store. -/
inductive StoreCall where
  | store (key : CacheKey) (record : CacheRecord)
  | findAll (key : CacheKey)
  | find (key : CacheKey) (vary : VaryKeys)
  | invalidateAll
  | sizeBytes

/-- The answer to a call on a response store. -/
inductive StoreAnswer where
  | done
  | records (records : List CacheRecord)
  | record (record : Option CacheRecord)
  | size (bytes : Nat)
  deriving DecidableEq

/-- Entries by key from least to most recently used, with a byte budget. -/
structure RecencyList where
  entries : List (CacheKey × CacheEntry)
  maxSize : Nat

namespace RecencyList

/-- The total size of some entries. -/
def totalBytes (l : List (CacheKey × CacheEntry)) : Nat := natSum (l.map (·.2.byteSize))

@[simp] theorem totalBytes_nil : totalBytes [] = 0 := rfl

@[simp] theorem totalBytes_cons (p : CacheKey × CacheEntry) (l : List (CacheKey × CacheEntry)) :
    totalBytes (p :: l) = p.2.byteSize + totalBytes l := rfl

@[simp] theorem totalBytes_append (l l' : List (CacheKey × CacheEntry)) :
    totalBytes (l ++ l') = totalBytes l + totalBytes l' := by
  simp only [totalBytes, List.map_append, natSum_append]

/-- Drops least recently used entries, one by one, while the entries are over the budget. -/
def trim (maxSize : Nat) : List (CacheKey × CacheEntry) → List (CacheKey × CacheEntry)
  | [] => []
  | p :: rest => if maxSize < totalBytes (p :: rest) then trim maxSize rest else p :: rest

/-- The entry of a key. -/
def entry? (m : RecencyList) (key : CacheKey) : Option CacheEntry :=
  (m.entries.find? (·.1 = key)).map (·.2)

/-- Makes a key the most recently used. -/
def use (m : RecencyList) (key : CacheKey) : RecencyList :=
  match m.entry? key with
  | some e => { m with entries := m.entries.filter (·.1 ≠ key) ++ [(key, e)] }
  | none => m

/-- Stores a record: the key's entry with the record upserted becomes the most recent, and
    the list is trimmed to the budget. -/
def store (m : RecencyList) (key : CacheKey) (record : CacheRecord) : RecencyList :=
  { m with
    entries := trim m.maxSize
      (m.entries.filter (·.1 ≠ key) ++ [(key, ((m.entry? key).getD {}).upsert record)]) }

/-- Answers a call. -/
def call (m : RecencyList) : StoreCall → StoreAnswer × RecencyList
  | .store key record => (.done, m.store key record)
  | .findAll key => (.records (((m.entry? key).map (·.records)).getD []), m.use key)
  | .find key vary => (.record ((m.entry? key).bind (·.find? vary)), m.use key)
  | .invalidateAll => (.done, { m with entries := [] })
  | .sizeBytes => (.size (totalBytes m.entries), m)

/-- Trimming keeps a suffix of the entries. -/
theorem trim_eq_drop (maxSize : Nat) (l : List (CacheKey × CacheEntry)) :
    ∃ n, trim maxSize l = l.drop n := by
  induction l with
  | nil => exact ⟨0, rfl⟩
  | cons p rest ih =>
    by_cases hover : maxSize < totalBytes (p :: rest)
    · obtain ⟨n, hn⟩ := ih
      exact ⟨n + 1, by rw [trim, if_pos hover, hn, List.drop_succ_cons]⟩
    · exact ⟨0, by rw [trim, if_neg hover, List.drop_zero]⟩

/-- Trimmed entries are within the budget. -/
theorem totalBytes_trim_le (maxSize : Nat) (l : List (CacheKey × CacheEntry)) :
    totalBytes (trim maxSize l) ≤ maxSize := by
  induction l with
  | nil => simp [trim]
  | cons p rest ih =>
    rw [trim]
    split
    · exact ih
    · omega

/-- The newest entry, alone within the budget, survives the trim: what is dropped comes
    before it. -/
theorem trim_append_of_le {maxSize : Nat} {p : CacheKey × CacheEntry}
    (hp : p.2.byteSize ≤ maxSize) (others : List (CacheKey × CacheEntry)) :
    ∃ n, trim maxSize (others ++ [p]) = others.drop n ++ [p] := by
  induction others with
  | nil => exact ⟨0, by simp [trim, Nat.not_lt.2 hp]⟩
  | cons q rest ih =>
    by_cases hover : maxSize < totalBytes (q :: rest ++ [p])
    · obtain ⟨n, hn⟩ := ih
      exact ⟨n + 1, by rw [List.cons_append, trim, ← List.cons_append, if_pos hover, hn,
        List.drop_succ_cons]⟩
    · exact ⟨0, by rw [List.cons_append, trim, ← List.cons_append, if_neg hover, List.drop_zero]⟩

/-- The newest entry, alone over the budget, is dropped, and everything before it too. -/
theorem trim_append_of_lt {maxSize : Nat} {p : CacheKey × CacheEntry}
    (hp : maxSize < p.2.byteSize) (others : List (CacheKey × CacheEntry)) :
    trim maxSize (others ++ [p]) = [] := by
  induction others with
  | nil => simp [trim, hp]
  | cons q rest ih =>
    -- The newest entry is counted in every total, so each is over the budget.
    have hover : maxSize < totalBytes (q :: rest ++ [p]) := by
      simp only [List.cons_append, totalBytes_cons, totalBytes_append, totalBytes_nil]
      omega
    rw [List.cons_append, trim, ← List.cons_append, if_pos hover, ih]

/-- After a store, the key holds its entry with the record upserted exactly when that entry
    alone fits the budget; otherwise the list is empty. -/
theorem entry?_store (m : RecencyList) (key : CacheKey) (record : CacheRecord) :
    let entry := ((m.entry? key).getD {}).upsert record
    (m.maxSize < entry.byteSize → (m.store key record).entries = []) ∧
      (entry.byteSize ≤ m.maxSize → entry? (m.store key record) key = some entry) := by
  intro entry
  constructor
  · intro hover
    exact trim_append_of_lt (p := (key, entry)) hover _
  · intro hfits
    obtain ⟨n, hn⟩ := trim_append_of_le (p := (key, entry)) hfits (m.entries.filter (·.1 ≠ key))
    have hentries : (m.store key record).entries =
        (m.entries.filter (·.1 ≠ key)).drop n ++ [(key, entry)] := hn
    -- What is left of the other keys cannot hold the key.
    have hnone : ((m.entries.filter (·.1 ≠ key)).drop n).find? (·.1 = key) = none :=
      List.find?_eq_none.2 fun q hq => by
        simpa using (List.mem_filter.1 (List.mem_of_mem_drop hq)).2
    rw [RecencyList.entry?, hentries, List.find?_append, hnone]
    simp

/-- With distinct keys, the size of the entries is that of the other keys' entries plus
    that of the key's entry. -/
theorem totalBytes_eq_filter_add (m : RecencyList) (hm : (m.entries.map (·.1)).Nodup)
    (key : CacheKey) :
    totalBytes m.entries =
      totalBytes (m.entries.filter (·.1 ≠ key)) + ((m.entry? key).getD {}).byteSize := by
  obtain ⟨l, maxSize⟩ := m
  induction l with
  | nil => rfl
  | cons p rest ih =>
    obtain ⟨k, e⟩ := p
    simp only [List.map_cons, List.nodup_cons] at hm
    by_cases hk : k = key
    · -- The key's entry is the first, and no later entry has its key.
      subst hk
      have hnot : ∀ q ∈ rest, q.1 ≠ k := fun q hq he => hm.1 (by
        rw [← he]
        exact List.mem_map_of_mem hq)
      have hrest : rest.filter (fun q => !decide (q.1 = k)) = rest :=
        List.filter_eq_self.2 (by simpa using hnot)
      simp [RecencyList.entry?, hrest, Nat.add_comm]
    · have hrest := ih hm.2
      simp only [RecencyList.entry?] at hrest ⊢
      simp [hk, hrest, Nat.add_assoc]

end RecencyList

namespace MemoryStore

open RecencyList (totalBytes trim totalBytes_eq_filter_add)

/-- The recency list a store holds. -/
def view (s : MemoryStore) : RecencyList := ⟨s.entries, s.maxSize⟩

/-- A store whose count is right: its keys are distinct and it counts the size of its
    entries. -/
structure Accounted (s : MemoryStore) : Prop where
  keys_nodup : (s.entries.map (·.1)).Nodup
  bytesInUse_eq : s.bytesInUse = totalBytes s.entries

/-- Answers a call. -/
def call (s : MemoryStore) : StoreCall → StoreAnswer × MemoryStore
  | .store key record => (.done, s.store key record)
  | .findAll key => ((.records (s.findAll key).1), (s.findAll key).2)
  | .find key vary => ((.record (s.find key vary).1), (s.find key vary).2)
  | .invalidateAll => (.done, s.invalidateAll)
  | .sizeBytes => (.size s.sizeBytes, s)

@[simp] theorem view_entries (s : MemoryStore) : s.view.entries = s.entries := rfl

@[simp] theorem view_maxSize (s : MemoryStore) : s.view.maxSize = s.maxSize := rfl

theorem entry?_view (s : MemoryStore) (key : CacheKey) : s.view.entry? key = s.entry? key := rfl

theorem accounted_empty (maxSize : Nat) : Accounted (empty maxSize) :=
  ⟨List.nodup_nil, rfl⟩

/-- Eviction by the running count, started from the size of the entries, is trimming. -/
theorem evict_eq_trim (maxSize : Nat) (l : List (CacheKey × CacheEntry)) :
    evict maxSize l (totalBytes l) = (trim maxSize l, totalBytes (trim maxSize l)) := by
  induction l with
  | nil => rfl
  | cons p rest ih =>
    obtain ⟨k, e⟩ := p
    by_cases hover : maxSize < totalBytes ((k, e) :: rest)
    · have hcount : totalBytes ((k, e) :: rest) - e.byteSize = totalBytes rest := by
        simp
      rw [evict, if_pos hover, hcount, ih, trim, if_pos hover]
    · rw [evict, if_neg hover, trim, if_neg hover]

/-- The entries of the other keys, then the key last, have distinct keys. -/
theorem nodup_filter_append {l : List (CacheKey × CacheEntry)} (hl : (l.map (·.1)).Nodup)
    (key : CacheKey) (e : CacheEntry) :
    ((l.filter (·.1 ≠ key) ++ [(key, e)]).map (·.1)).Nodup := by
  rw [List.map_append, List.nodup_append]
  refine ⟨(List.filter_sublist.map _).nodup hl, by simp, ?_⟩
  intro a ha b hb
  simp only [List.map_cons, List.map_nil, List.mem_singleton] at hb
  obtain ⟨q, hq, rfl⟩ := List.mem_map.1 ha
  simpa [hb] using (List.mem_filter.1 hq).2

/-- An accounted store evicts by trimming: the count it starts eviction from is the size of
    the entries it evicts from, so it holds the list's entries and counts their size. -/
theorem store_of_accounted {s : MemoryStore} (h : Accounted s) (key : CacheKey)
    (record : CacheRecord) :
    s.store key record = { s with
      entries := (s.view.store key record).entries
      bytesInUse := totalBytes (s.view.store key record).entries } := by
  have hsplit := totalBytes_eq_filter_add s.view h.keys_nodup key
  simp only [view_entries, entry?_view] at hsplit
  have hcount : s.bytesInUse - ((s.entry? key).getD {}).byteSize +
      (((s.entry? key).getD {}).upsert record).byteSize =
      totalBytes (s.entries.filter (·.1 ≠ key) ++ [(key, ((s.entry? key).getD {}).upsert record)]) := by
    rw [h.bytesInUse_eq, hsplit]
    simp
  unfold store
  simp only [hcount, evict_eq_trim]
  rfl

/-- An accounted store stores as its list does, and stays accounted. -/
theorem store_refines {s : MemoryStore} (h : Accounted s) (key : CacheKey) (record : CacheRecord) :
    (s.store key record).view = s.view.store key record ∧ Accounted (s.store key record) := by
  rw [store_of_accounted h key record]
  refine ⟨rfl, ⟨?_, rfl⟩⟩
  -- The list keeps a suffix of the other keys' entries, then the key's.
  obtain ⟨n, hn⟩ := RecencyList.trim_eq_drop s.maxSize
    (s.entries.filter (·.1 ≠ key) ++ [(key, ((s.entry? key).getD {}).upsert record)])
  show ((trim s.maxSize _).map (·.1)).Nodup
  simp only [view_entries, entry?_view, hn]
  exact ((List.drop_sublist _ _).map _).nodup (nodup_filter_append h.keys_nodup key _)

/-- An accounted store makes a key the most recent as its list does, and stays accounted. -/
theorem touch_refines {s : MemoryStore} (h : Accounted s) (key : CacheKey) :
    (s.touch key).view = s.view.use key ∧ Accounted (s.touch key) := by
  unfold touch RecencyList.use
  rw [MemoryStore.entry?_view]
  cases he : s.entry? key with
  | none => exact ⟨rfl, h⟩
  | some e =>
    refine ⟨rfl, nodup_filter_append h.keys_nodup key e, ?_⟩
    -- The moved entry is counted once, now last.
    have hsplit := totalBytes_eq_filter_add s.view h.keys_nodup key
    simp only [view_entries, entry?_view, he] at hsplit
    simp [h.bytesInUse_eq, hsplit]

/-- One call on an accounted store is answered as its list answers it, and leaves an
    accounted store that holds the list's next state. -/
theorem call_refines {s : MemoryStore} (h : Accounted s) (c : StoreCall) :
    (s.call c).1 = (s.view.call c).1 ∧
      (Accounted (s.call c).2 ∧ (s.call c).2.view = (s.view.call c).2) := by
  cases c with
  | store key record =>
    obtain ⟨hv, ha⟩ := store_refines h key record
    exact ⟨rfl, ha, hv⟩
  | findAll key =>
    obtain ⟨hv, ha⟩ := touch_refines h key
    exact ⟨rfl, ha, hv⟩
  | find key vary =>
    obtain ⟨hv, ha⟩ := touch_refines h key
    refine ⟨?_, ha, hv⟩
    simp only [call, find, findAll, RecencyList.call, entry?_view]
    cases s.entry? key <;> rfl
  | invalidateAll => exact ⟨rfl, ⟨List.nodup_nil, rfl⟩, rfl⟩
  | sizeBytes => exact ⟨by simp [call, RecencyList.call, sizeBytes, h.bytesInUse_eq], h, rfl⟩

theorem maxSize_touch (s : MemoryStore) (key : CacheKey) : (s.touch key).maxSize = s.maxSize := by
  unfold touch
  split <;> rfl

theorem maxSize_store (s : MemoryStore) (key : CacheKey) (record : CacheRecord) :
    (s.store key record).maxSize = s.maxSize := rfl

theorem maxSize_call (s : MemoryStore) (c : StoreCall) : (s.call c).2.maxSize = s.maxSize := by
  cases c with
  | store key record => exact maxSize_store s key record
  | findAll key => exact maxSize_touch s key
  | find key vary => exact maxSize_touch s key
  | invalidateAll => rfl
  | sizeBytes => rfl

/-- No sequence of calls changes the budget. -/
theorem maxSize_answerAll (s : MemoryStore) :
    ∀ calls, (answerAll call s calls).2.maxSize = s.maxSize
  | [] => rfl
  | c :: cs => by
    rw [answerAll, maxSize_answerAll _ cs, maxSize_call]

/-- The in-memory store is a recency list within its budget: after any sequence of calls
    from an empty store, every answer was the list's, the store holds the list's entries
    and counts exactly their size, and a further store keeps within the budget and evicts
    the key just written exactly when its entry alone is over the budget, leaving nothing. -/
theorem answerAll_refines (maxSize : Nat) (calls : List StoreCall) :
    let run := answerAll call (empty maxSize) calls
    let spec := answerAll RecencyList.call ⟨[], maxSize⟩ calls
    run.1 = spec.1 ∧ run.2.view = spec.2 ∧ run.2.bytesInUse = totalBytes run.2.entries ∧
      ∀ key record,
        let entry := ((MemoryStore.entry? run.2 key).getD {}).upsert record
        (run.2.store key record).bytesInUse ≤ maxSize ∧
          (MemoryStore.entry? (run.2.store key record) key = none ↔ maxSize < entry.byteSize) ∧
          (MemoryStore.entry? (run.2.store key record) key = none → (run.2.store key record).entries = []) := by
  intro run spec
  obtain ⟨hans, hacc, hview⟩ := answerAll_of_simulates
    (fun s m => Accounted s ∧ s.view = m)
    (fun s m c ⟨hs, hm⟩ => hm ▸ call_refines hs c) calls (empty maxSize) ⟨[], maxSize⟩
    ⟨accounted_empty maxSize, rfl⟩
  have hmax : run.2.maxSize = maxSize := maxSize_answerAll (empty maxSize) calls
  refine ⟨hans, hview, hacc.bytesInUse_eq, fun key record => ?_⟩
  intro entry
  obtain ⟨hv, ha⟩ := store_refines hacc key record
  obtain ⟨hover, hfits⟩ := RecencyList.entry?_store run.2.view key record
  -- Both facts speak of the list after the store, which the store holds.
  rw [← hv] at hover hfits
  simp only [view_entries, view_maxSize, entry?_view, hmax] at hover hfits
  have hbudget : (run.2.store key record).bytesInUse ≤ maxSize := by
    rw [ha.bytesInUse_eq, ← view_entries, hv]
    calc totalBytes (run.2.view.store key record).entries ≤ run.2.view.maxSize :=
          RecencyList.totalBytes_trim_le _ _
      _ = maxSize := hmax
  have hevicted : entry? (run.2.store key record) key = none ↔ maxSize < entry.byteSize :=
    ⟨fun hnone => Nat.lt_of_not_le fun hle => Option.some_ne_none _ ((hfits hle).symm.trans hnone),
      fun hlt => by rw [MemoryStore.entry?, hover hlt]; rfl⟩
  exact ⟨hbudget, hevicted, fun hnone => hover (hevicted.1 hnone)⟩

end MemoryStore

end FeatureFlags
