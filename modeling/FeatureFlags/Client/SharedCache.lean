import FeatureFlags.Service.Client

/-!
# Calls and push events over one response store

The client's calls and its handling of push events share the response store, and each of them
awaits in the middle. A call through the cache looks its key up, sends its request and awaits
the reply, and then stores the record it keeps of the reply. The handling of a push event
drops every record and then refetches, which is a call of its own.

A look-up and the dropping of every record are one step each. Storing in memory has no
await, so in memory a call stores its record in the step its reply arrives. Storing in the
folder is a write under way (`PendingWrite`) that goes through four phases, each a step of its
own with others between:

* the making of the folder, before the key's lock is taken;
* the taking of the key's lock and the read of the key's file;
* the write of the key's file with the record upserted into what was read, through its
  temporary file, and the release of the lock;
* the trim of the folder.

A look-up, and the read of another write, wait while a write holds their key. The drop takes
no lock: it can come between any two phases of a write. A drop before a write's read leaves it
writing onto the folder as it is found, re-made by this write or by another one's first phase;
a drop after the read leaves it holding what it read, which its write puts back. (A drop
between the temporary file's write and its rename makes the rename fail, and the state is then
one that the drop coming after the whole write also gives, so the write is one step.)

Steps are taken at instants that never go back: a look-up at its instant, and a reply at the
instant it arrived, which the record kept of it has as its response time. Any order of steps
is a schedule (`SharedCache.runAll`); `SharedCache.Reachable` holds of the states that
schedules reach from a store with no write under way.
-/

namespace FeatureFlags

/-- Where a write to the folder stands, from the arrival of its reply to its end. -/
inductive WritePhase where
  /-- The write awaits the making of the folder. -/
  | folder
  /-- The folder is made; the write awaits its key's lock and the read of the key's file. -/
  | read
  /-- The write holds its key's lock and has read the key's entry. -/
  | write (entry : CacheEntry)
  /-- The key's file is written and its lock released; the write awaits the trim. -/
  | trim

/-- Whether a write in this phase holds its key's lock. -/
def WritePhase.holdsKey : WritePhase → Bool
  | .write _ => true
  | _ => false

/-- A write to the folder under way: the key, the record kept of the reply, and the phase. -/
structure PendingWrite where
  key : CacheKey
  record : CacheRecord
  phase : WritePhase := .folder

/-- The response store as the client's calls and its handling of push events share it. -/
structure SharedCache where
  store : ResponseStore
  /-- The instant of the last step. -/
  now : Instant
  /-- The writes to the folder under way, in the order their replies arrived. -/
  storing : List PendingWrite := []

/-- One step of a schedule. -/
inductive CacheStep where
  /-- A call looks a key up, with the headers it sends, at an instant. -/
  | lookup (key : CacheKey) (sent : VaryKeys) (t : Instant)
  /-- The reply of a call arrives, and the call keeps a record of it under a key; the
      record's response time is the instant of arrival. -/
  | arrive (key : CacheKey) (record : CacheRecord)
  /-- The `k`-th write under way makes the folder. -/
  | makeFolder (k : Nat)
  /-- The `k`-th write under way takes its key's lock and reads the key's file. -/
  | read (k : Nat)
  /-- The `k`-th write under way writes the key's file and releases the lock. -/
  | write (k : Nat)
  /-- The `k`-th write under way trims the folder, and ends. -/
  | trim (k : Nat)
  /-- The handling of a push event drops every record, at an instant. -/
  | invalidate (t : Instant)

namespace SharedCache

/-- A store with no write under way, at an instant. -/
def init (store : ResponseStore) (now : Instant) : SharedCache := { store, now }

/-- Whether a write under way holds the lock of a key. -/
def holdsKey (c : SharedCache) (key : CacheKey) : Bool :=
  c.storing.any fun w => w.phase.holdsKey && w.key == key

/-- The `k`-th write under way runs a part of itself on the folder of `s`: it goes on as
    `next` gives from the part's result, or ends when the part failed. -/
def advance {α : Type} (c : SharedCache) (k : Nat) (s : FileStore) (part : FolderM α)
    (next : α → PendingWrite) : SharedCache :=
  match s.runOn part with
  | (.ok a, s) => { c with store := .file s, storing := c.storing.set k (next a) }
  | (.error _, s) => { c with store := .file s, storing := c.storing.eraseIdx k }

/-- One step, or none when it cannot be taken: an instant before the last step's, a look-up
    or read of a key that a write holds, or no `k`-th write under way in that phase. -/
def step (c : SharedCache) : CacheStep → Option SharedCache
  | .lookup key sent t =>
    if c.now.nanos ≤ t.nanos ∧ c.holdsKey key = false then
      some { c with store := (ServiceClient.lookup c.store key sent).2, now := t }
    else none
  | .arrive key record =>
    if c.now.nanos ≤ record.responseTime.nanos then
      if c.store.inMemory then
        some { c with
          store := ServiceClient.keep c.store key record record.responseTime
          now := record.responseTime }
      else some { c with storing := c.storing ++ [⟨key, record, .folder⟩], now := record.responseTime }
    else none
  | .makeFolder k =>
    match c.storing[k]?, c.store with
    | some ⟨key, record, .folder⟩, .file s =>
      some (c.advance k s (FileStore.change Folder.create) fun _ => ⟨key, record, .read⟩)
    | _, _ => none
  | .read k =>
    match c.storing[k]?, c.store with
    | some ⟨key, record, .read⟩, .file s =>
      if c.holdsKey key then none
      else some (c.advance k s (FileStore.readEntry key) fun entry => ⟨key, record, .write entry⟩)
    | _, _ => none
  | .write k =>
    match c.storing[k]?, c.store with
    | some ⟨key, record, .write entry⟩, .file s =>
      some (c.advance k s
        (FileStore.writeEntry key (entry.upsert record) record.responseTime.seconds)
        fun _ => ⟨key, record, .trim⟩)
    | _, _ => none
  | .trim k =>
    match c.storing[k]?, c.store with
    | some ⟨key, _, .trim⟩, .file s =>
      -- A failure to trim is not the store's: the write ends either way.
      some { c with
        store := .file (s.runOn (tryCatch (FileStore.trim s.maxSize key) fun _ => pure ())).2
        storing := c.storing.eraseIdx k }
    | _, _ => none
  | .invalidate t =>
    if c.now.nanos ≤ t.nanos then some { c with store := c.store.invalidateAll, now := t }
    else none

/-- The state after a schedule, or none when some step of it cannot be taken. -/
def runAll (c : SharedCache) : List CacheStep → Option SharedCache
  | [] => some c
  | a :: rest => (c.step a).bind fun c => c.runAll rest

/-- The states that schedules reach from a store with no write under way. -/
inductive Reachable : SharedCache → Prop
  | init (store : ResponseStore) (now : Instant) : Reachable (init store now)
  | step {c c' : SharedCache} (a : CacheStep) : Reachable c → c.step a = some c' → Reachable c'

end SharedCache

end FeatureFlags
