import FeatureFlags.Service.Client

/-!
# What a response store holds

The records a store holds under a key are those a look-up of the key finds, and none
when the look-up fails (`ResponseStore.held`). A look-up is a read: it changes what the
store holds under no key. In memory it only makes the key the most recently used; in the
folder it only removes a file that does not decode, which held nothing.

* `MemoryStore.entry?_touch`: making a key the most recently used keeps every entry;
* `Folder.read_removeFile`: removing a file is seen only at its name;
* `ResponseStore.held_findAll`: after a look-up of any key, every key holds what it held;
* `ResponseStore.held_store_memory`: a record stored in memory is upserted into its key's
  records, unless eviction empties the store.

A component that answers calls (a store, a framer) is a state machine: a call gives an
answer and the next state, and `answerAll` makes a sequence of calls in turn.
`answerAll_of_simulates`: a relation between two machines that one call keeps, with equal
answers, keeps the answers of every sequence of calls equal; this is how an implementation
is shown to refine a simpler model, one call at a time.
-/

namespace FeatureFlags

/-! ### Calls answered in turn -/

/-- The answers to calls made in turn on a state machine, and the state after the last. -/
def answerAll {σ γ α : Type} (step : σ → γ → α × σ) : σ → List γ → List α × σ
  | s, [] => ([], s)
  | s, c :: cs =>
    ((step s c).1 :: (answerAll step (step s c).2 cs).1, (answerAll step (step s c).2 cs).2)

/-- A relation that one call keeps, with equal answers, keeps the answers of every sequence
    of calls equal. -/
theorem answerAll_of_simulates {σ τ γ α : Type} {f : σ → γ → α × σ} {g : τ → γ → α × τ}
    (R : σ → τ → Prop) (hstep : ∀ s t c, R s t → (f s c).1 = (g t c).1 ∧ R (f s c).2 (g t c).2) :
    ∀ (cs : List γ) (s : σ) (t : τ), R s t →
      (answerAll f s cs).1 = (answerAll g t cs).1 ∧ R (answerAll f s cs).2 (answerAll g t cs).2
  | [], _, _, h => ⟨rfl, h⟩
  | c :: cs, s, t, h => by
    obtain ⟨hans, hR⟩ := hstep s t c h
    obtain ⟨hrest, hR'⟩ := answerAll_of_simulates R hstep cs _ _ hR
    exact ⟨by simp only [answerAll, hans, hrest], hR'⟩

/-! ### Records of a key -/

/-- Dropping elements that no element found satisfies does not change what is found. -/
theorem List.find?_filter_of_imp {α : Type} {p q : α → Bool} (l : List α)
    (h : ∀ a, q a = true → p a = true) : (l.filter p).find? q = l.find? q := by
  induction l with
  | nil => rfl
  | cons a l ih =>
    by_cases hq : q a = true
    · simp [h a hq, hq]
    · by_cases hp : p a = true <;> simp [hp, hq, ih]

/-- A record of an entry with a record upserted is one it had, or the record. -/
theorem CacheEntry.mem_upsert {e : CacheEntry} {r r' : CacheRecord}
    (h : r ∈ (e.upsert r').records) : r ∈ e.records ∨ r = r' := by
  rcases List.mem_append.1 h with h | h
  · exact .inl (List.mem_filter.1 h).1
  · exact .inr (List.mem_singleton.1 h)

namespace MemoryStore

/-- Making a key the most recently used keeps the entry of every key. -/
theorem entry?_touch (s : MemoryStore) (key key' : CacheKey) :
    entry? (s.touch key) key' = s.entry? key' := by
  unfold touch
  split
  · rename_i e he
    simp only [MemoryStore.entry?, List.find?_append] at he ⊢
    by_cases hk : key' = key
    · -- The moved entry is found at its new place, at the end.
      subst hk
      rw [List.find?_eq_none.2 (by simp)]
      simpa using he.symm
    · rw [List.find?_filter_of_imp _ (by simp_all)]
      cases s.entries.find? (·.1 = key') <;> simp [Ne.symm hk]
  · rfl

/-- The records of a key, with the store after the look-up. -/
theorem findAll_eq (s : MemoryStore) (key : CacheKey) :
    s.findAll key = (((s.entry? key).map (·.records)).getD [], s.touch key) := rfl

/-- Eviction drops entries from the front only. -/
theorem evict_fst_eq_drop (maxSize : Nat) (l : List (CacheKey × CacheEntry)) (bytes : Nat) :
    ∃ n, (evict maxSize l bytes).1 = l.drop n := by
  induction l generalizing bytes with
  | nil => exact ⟨0, rfl⟩
  | cons p rest ih =>
    obtain ⟨k, e⟩ := p
    by_cases hover : bytes > maxSize
    · obtain ⟨n, hn⟩ := ih (bytes - e.byteSize)
      exact ⟨n + 1, by simp [evict, hover, hn]⟩
    · exact ⟨0, by simp [evict, hover]⟩

/-- Storing puts the key's upserted entry last, then evicts from the front. -/
theorem store_entries (s : MemoryStore) (key : CacheKey) (record : CacheRecord) :
    ∃ bytes, (s.store key record).entries = (evict s.maxSize
      (s.entries.filter (·.1 ≠ key) ++ [(key, ((s.entry? key).getD {}).upsert record)]) bytes).1 := by
  unfold store
  exact ⟨_, rfl⟩

/-- Eviction within the budget drops nothing. -/
theorem evict_of_le {maxSize bytes : Nat} (h : bytes ≤ maxSize) (l : List (CacheKey × CacheEntry)) :
    evict maxSize l bytes = (l, bytes) := by
  cases l with
  | nil => rfl
  | cons p rest =>
    obtain ⟨k, e⟩ := p
    simp [evict, Nat.not_lt.2 h]

/-- A store within the budget puts the key's upserted entry last and evicts nothing. -/
theorem store_of_le {s : MemoryStore} {key : CacheKey} {record : CacheRecord}
    (h : s.bytesInUse - ((s.entry? key).getD {}).byteSize +
      (((s.entry? key).getD {}).upsert record).byteSize ≤ s.maxSize) :
    s.store key record =
      { s with
        entries := s.entries.filter (·.1 ≠ key) ++ [(key, ((s.entry? key).getD {}).upsert record)]
        bytesInUse := s.bytesInUse - ((s.entry? key).getD {}).byteSize +
          (((s.entry? key).getD {}).upsert record).byteSize } := by
  unfold store
  simp only [evict_of_le h]

/-- After a record is stored under a key, the key's entry is its old entry with the record
    upserted, unless eviction emptied the store: the key is written last, so it goes last. -/
theorem entry?_store (s : MemoryStore) (key : CacheKey) (record : CacheRecord) :
    entry? (s.store key record) key = some (((s.entry? key).getD {}).upsert record) ∨
      (s.store key record).entries = [] := by
  obtain ⟨bytes, hentries⟩ := store_entries s key record
  obtain ⟨n, hn⟩ := evict_fst_eq_drop s.maxSize
    (s.entries.filter (·.1 ≠ key) ++ [(key, ((s.entry? key).getD {}).upsert record)]) bytes
  rw [hn] at hentries
  by_cases hkept : n ≤ (s.entries.filter (·.1 ≠ key)).length
  · -- The entries before the key's are other keys'.
    left
    rw [MemoryStore.entry?, hentries, List.drop_append_of_le_length hkept, List.find?_append,
      List.find?_eq_none.2 fun p hp => by simpa using (List.mem_filter.1 (List.mem_of_mem_drop hp)).2]
    simp
  · right
    rw [hentries]
    exact List.drop_eq_nil_of_le (by simp only [List.length_append, List.length_singleton]; omega)

/-- The entry found for a key is one of the store's entries, under the key. -/
theorem mem_entries_of_entry? {s : MemoryStore} {key : CacheKey} {e : CacheEntry}
    (h : s.entry? key = some e) : (key, e) ∈ s.entries := by
  obtain ⟨⟨k, e'⟩, hp, rfl⟩ := Option.map_eq_some_iff.1 h
  have hk : k = key := by simpa using List.find?_some hp
  subst hk
  exact List.mem_of_find?_eq_some hp

/-- Making a key the most recently used adds no entry. -/
theorem mem_entries_touch {s : MemoryStore} {key : CacheKey} {p : CacheKey × CacheEntry}
    (h : p ∈ (s.touch key).entries) : p ∈ s.entries := by
  unfold touch at h
  split at h
  · rcases List.mem_append.1 h with h | h
    · exact (List.mem_filter.1 h).1
    · rw [List.mem_singleton.1 h]
      exact mem_entries_of_entry? ‹_›
  · exact h

/-- After a store, every entry is one the store had, or the key's entry with the record
    upserted. -/
theorem mem_entries_store {s : MemoryStore} {key : CacheKey} {record : CacheRecord}
    {p : CacheKey × CacheEntry} (h : p ∈ (s.store key record).entries) :
    p ∈ s.entries ∨ p = (key, ((s.entry? key).getD {}).upsert record) := by
  obtain ⟨bytes, hentries⟩ := store_entries s key record
  obtain ⟨n, hn⟩ := evict_fst_eq_drop s.maxSize
    (s.entries.filter (·.1 ≠ key) ++ [(key, ((s.entry? key).getD {}).upsert record)]) bytes
  rw [hentries, hn] at h
  rcases List.mem_append.1 (List.mem_of_mem_drop h) with h | h
  · exact .inl (List.mem_filter.1 h).1
  · exact .inr (List.mem_singleton.1 h)

end MemoryStore

namespace Folder

/-- Removing a file leaves the folder present, without any entry of that name. -/
theorem removeFile_eq {f g : Folder} {name : List UInt8} (h : f.removeFile name = .ok g) :
    ∃ entries, f = .present entries ∧ g = .present (entries.filter (·.1 ≠ name)) := by
  cases f with
  | absent => cases h
  | blocked => cases h
  | present entries =>
    simp only [removeFile, lookup, list, bind, Except.bind, pure, Except.pure] at h
    split at h
    · exact ⟨entries, rfl, (Except.ok.inj h).symm⟩
    all_goals cases h

/-- After a file is removed, its name is not found, and every other name reads what it
    read before. -/
theorem read_removeFile {f g : Folder} {name : List UInt8} (h : f.removeFile name = .ok g)
    (name' : List UInt8) : g.read name' = if name' = name then .error .notFound else f.read name' := by
  obtain ⟨entries, rfl, rfl⟩ := removeFile_eq h
  by_cases hn : name' = name
  · subst hn
    simp only [read, lookup, list, bind, Except.bind, pure, Except.pure, List.find?_filter,
      if_true]
    rw [List.find?_eq_none.2 (by simp)]
    rfl
  · simp only [read, lookup, list, hn, if_false, bind, Except.bind, pure, Except.pure]
    rw [List.find?_filter_of_imp _ (by simp_all)]

end Folder

namespace FileStore

/-- A folder operation that starts by looking at the folder runs on the folder it finds. -/
theorem run_get_bind {α : Type} (k : Folder → FolderM α) (f : Folder) :
    (get >>= k).run.run f = (k f).run.run f := rfl

/-- Two folder operations in a row: the second runs on the folder the first leaves, unless
    the first failed. -/
theorem run_bind {α β : Type} (x : FolderM α) (k : α → FolderM β) (f : Folder) :
    (x >>= k).run.run f =
      match x.run.run f with
      | (.ok a, g) => (k a).run.run g
      | (.error e, g) => (.error e, g) := by
  rw [ExceptT.run_bind, StateT.run_bind]
  rcases x.run.run f with ⟨_ | a, g⟩ <;> rfl

/-- The records in a key's file: none when it cannot be read or does not decode. -/
def recordsIn (f : Folder) (key : CacheKey) : List CacheRecord :=
  match f.read (fileName key) with
  | .ok data =>
    match Codec.decode data with
    | .ok entry => entry.records
    | .error _ => []
  | .error _ => []

/-- Reading a key's entry: a missing file is an empty entry, another read error fails,
    and a file that does not decode is removed, if it can be, and read as empty. -/
theorem readEntry_run (f : Folder) (key : CacheKey) :
    (readEntry key).run.run f =
      match f.read (fileName key) with
      | .error .notFound => (.ok {}, f)
      | .error e => (.error (ioError e), f)
      | .ok data =>
        match Codec.decode data with
        | .ok entry => (.ok entry, f)
        | .error _ =>
          (.ok {}, match f.removeFile (fileName key) with
            | .ok g => g
            | .error _ => f) := by
  unfold readEntry
  rw [run_get_bind]
  rcases f.read (fileName key) with e | data
  · cases e <;> rfl
  · dsimp only
    rcases Codec.decode data with _ | entry <;> rfl

/-- A look-up of a key reads the key's entry and gives its records. -/
theorem findAll_eq (s : FileStore) (key : CacheKey) :
    s.findAll key =
      (((readEntry key).run.run s.folder).1.map (·.records),
        { s with folder := ((readEntry key).run.run s.folder).2 }) := by
  simp only [findAll, runOn]
  rw [run_bind]
  rcases (readEntry key).run.run s.folder with ⟨_ | e, g⟩ <;> rfl

/-- What a look-up of a key finds is what its file holds; it fails only when the file
    cannot be read for another reason than being missing. -/
theorem findAll_fst (s : FileStore) (key : CacheKey) :
    (match (s.findAll key).1 with
      | .ok records => records
      | .error _ => []) = recordsIn s.folder key := by
  rw [findAll_eq, readEntry_run, recordsIn]
  rcases s.folder.read (fileName key) with e | data
  · cases e <;> rfl
  · dsimp only
    rcases Codec.decode data with _ | entry <;> rfl

/-- A look-up of a key changes what no key's file holds: the only change it makes is to
    remove a file that does not decode, which holds nothing. -/
theorem recordsIn_findAll (s : FileStore) (key key' : CacheKey) :
    recordsIn (s.findAll key).2.folder key' = recordsIn s.folder key' := by
  rw [findAll_eq, readEntry_run]
  rcases hr : s.folder.read (fileName key) with e | data
  · cases e <;> rfl
  dsimp only
  rcases hd : Codec.decode data with _ | entry
  · rcases hg : s.folder.removeFile (fileName key) with _ | g
    · rfl
    · -- The file that did not decode is gone, and it held nothing.
      show recordsIn g key' = recordsIn s.folder key'
      unfold recordsIn
      rw [Folder.read_removeFile hg]
      by_cases hname : fileName key' = fileName key
      · simp [hname, hr, hd]
      · rw [if_neg hname]
  · rfl

end FileStore

namespace ResponseStore

/-- The records a store holds under a key: what a look-up of the key finds, and none
    when the look-up fails. -/
def held (s : ResponseStore) (key : CacheKey) : List CacheRecord :=
  match (s.findAll key).1 with
  | .ok records => records
  | .error _ => []

/-- What the memory holds under a key: the records of its entry. -/
theorem held_memory (s : MemoryStore) (key : CacheKey) :
    held (.memory s) key = ((s.entry? key).map (·.records)).getD [] := rfl

/-- What the folder holds under a key: the records in the key's file. -/
theorem held_file (s : FileStore) (key : CacheKey) :
    held (.file s) key = FileStore.recordsIn s.folder key := by
  rw [← FileStore.findAll_fst]
  rfl

/-- A store into the folder is the folder store's, with its result. -/
theorem store_file (s : FileStore) (key : CacheKey) (record : CacheRecord) (time : Nat) :
    (ResponseStore.file s).store key record time =
      ((s.store key record time).1, .file (s.store key record time).2) := by
  simp only [ResponseStore.store]

/-- Two stores that hold the same records under every key. -/
def SameRecords (s t : ResponseStore) : Prop := ∀ key, s.held key = t.held key

theorem SameRecords.refl (s : ResponseStore) : SameRecords s s := fun _ => rfl

theorem SameRecords.symm {s t : ResponseStore} (h : SameRecords s t) : SameRecords t s :=
  fun key => (h key).symm

theorem SameRecords.trans {s t u : ResponseStore} (h₁ : SameRecords s t)
    (h₂ : SameRecords t u) : SameRecords s u := fun key => (h₁ key).trans (h₂ key)

/-- After a record is stored in memory under a key, the key holds what it held with the
    record upserted: the records with other vary keys, then the record. Only an eviction
    that empties the store takes the key's records away. -/
theorem held_store_memory (s : MemoryStore) (key : CacheKey) (record : CacheRecord) :
    held (.memory (s.store key record)) key =
        (held (.memory s) key).filter (·.vary ≠ record.vary) ++ [record] ∨
      held (.memory (s.store key record)) key = [] := by
  rcases MemoryStore.entry?_store s key record with h | h
  · left
    rw [held_memory, held_memory, h]
    cases s.entry? key <;> rfl
  · right
    simp [held_memory, MemoryStore.entry?, h]

/-- A look-up of any key changes what the store holds under no key. -/
theorem held_findAll (s : ResponseStore) (key : CacheKey) :
    SameRecords (s.findAll key).2 s := by
  intro key'
  cases s with
  | memory s => simp [findAll, held_memory, MemoryStore.findAll_eq, MemoryStore.entry?_touch]
  | file s =>
    show held (.file (s.findAll key).2) key' = held (.file s) key'
    rw [held_file, held_file, FileStore.recordsIn_findAll]

end ResponseStore

end FeatureFlags
