import FeatureFlags.Cache.Record

/-!
# The in-memory response store

Entries by key, kept from least to most recently used, with a byte budget. Looking up a
key makes it the most recently used. Storing a record upserts it into its key's entry,
makes the key the most recently used, and then drops least recently used entries while
the total size of the entries is over the budget; the entry just written goes last, so
it is dropped only when nothing else is left.
-/

namespace FeatureFlags

/-- The in-memory response store. -/
structure MemoryStore where
  /-- Entries from least to most recently used. -/
  entries : List (CacheKey × CacheEntry) := []
  /-- The total size of the entries. -/
  bytesInUse : Nat := 0
  maxSize : Nat
  deriving Inhabited

namespace MemoryStore

/-- An empty store with a byte budget. -/
def empty (maxSize : Nat) : MemoryStore := { maxSize }

/-- The entry of a key. -/
def entry? (s : MemoryStore) (key : CacheKey) : Option CacheEntry :=
  (s.entries.find? (·.1 = key)).map (·.2)

/-- Makes a key the most recently used. -/
def touch (s : MemoryStore) (key : CacheKey) : MemoryStore :=
  match s.entry? key with
  | some e => { s with entries := s.entries.filter (·.1 ≠ key) ++ [(key, e)] }
  | none => s

/-- The records of a key, which becomes the most recently used. -/
def findAll (s : MemoryStore) (key : CacheKey) : List CacheRecord × MemoryStore :=
  (((s.entry? key).map (·.records)).getD [], s.touch key)

/-- The record of a key with some vary keys, found among the key's records; the key becomes
    the most recently used. -/
def find (s : MemoryStore) (key : CacheKey) (vary : VaryKeys) : Option CacheRecord × MemoryStore :=
  let (records, s) := s.findAll key
  (CacheEntry.find? ⟨records⟩ vary, s)

/-- The bytes the store counts as held. -/
def sizeBytes (s : MemoryStore) : Nat := s.bytesInUse

/-- Drops least recently used entries while over budget. -/
def evict (maxSize : Nat) : List (CacheKey × CacheEntry) → Nat → List (CacheKey × CacheEntry) × Nat
  | [], bytes => ([], bytes)
  | (k, e) :: rest, bytes =>
    if bytes > maxSize then evict maxSize rest (bytes - e.byteSize)
    else ((k, e) :: rest, bytes)

/-- Stores a record under a key. -/
def store (s : MemoryStore) (key : CacheKey) (record : CacheRecord) : MemoryStore :=
  let old := (s.entry? key).getD {}
  let entry := old.upsert record
  let bytes := s.bytesInUse - old.byteSize + entry.byteSize
  let (entries, bytes) := evict s.maxSize (s.entries.filter (·.1 ≠ key) ++ [(key, entry)]) bytes
  { s with entries, bytesInUse := bytes }

/-- Drops everything. -/
def invalidateAll (s : MemoryStore) : MemoryStore :=
  { s with entries := [], bytesInUse := 0 }

end MemoryStore

end FeatureFlags
