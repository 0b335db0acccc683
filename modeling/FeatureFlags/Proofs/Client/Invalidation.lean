import FeatureFlags.Client.SharedCache
import FeatureFlags.Proofs.Cache.Persistence
import FeatureFlags.Proofs.Service.Call

/-!
# What an invalidation drops, and what comes back

The handling of a push event drops every record, so that its refetch is not served what was
kept before the event. Over any schedule after the drop, a record that a look-up finds was kept
of a reply that arrived after the drop, or is carried by a write to the folder that was under
way at the drop: the record of that write's reply, or one the write had read from the key's
file before the drop and puts back (`SharedCache.found_after_invalidation`). In memory no
write is ever under way, so there every record found after the drop arrived after it.

In the folder all of these come back (`SharedCache.pending_write_outlives_invalidation`). A
write whose reply arrived before the drop re-makes the folder and writes its record after it,
and the refetch finds that record fresh; where the refetch's own write lands first, the older
record replaces the newer one and is found fresh once the refetch is done. And a write that
read the key's file before the drop writes back what it read once another store has re-made
the folder: a record stored whole before the drop is found fresh after it.

What one step can do is `SharedCache.Steps`. Two facts are carried along a schedule by it:
`SharedCache.ReadsKept`, that what a write has read is as the folder keeps records, and
`SharedCache.Traced`, that every record the store holds or a write under way carries comes
from the records a predicate allows.
-/

namespace FeatureFlags

/-! ### The parts of a store on the folder -/

namespace FileStore

/-- A key holds no more records in a folder that only lost files. -/
theorem recordsIn_subset_of_shrinks {f g : Folder} (h : f.Shrinks g) {key : CacheKey}
    {r : CacheRecord} (hr : r ∈ recordsIn g key) : r ∈ recordsIn f key :=
  recordsIn_subset_of_slot? (h.slot _) hr

/-- Making the folder changes no file. -/
theorem create_shrinks (f : Folder) : f.Shrinks ((change Folder.create).run.run f).2 := by
  rw [change_run]
  rcases hcreate : f.create with e | g
  · exact Folder.Shrinks.refl f
  · obtain ⟨hg, hslot⟩ := Folder.create_eq hcreate
    exact ⟨fun n => .inl (hslot n), fun hb => absurd hb hg⟩

/-- The read of an entry that succeeds gives the records of the key's file. -/
theorem readEntry_eq_of_fst {key : CacheKey} {f : Folder} {entry : CacheEntry}
    (h : ((readEntry key).run.run f).1 = .ok entry) : entry = ⟨recordsIn f key⟩ :=
  (readEntry_ok (Prod.ext h rfl)).1

/-- The write of an entry, whether it succeeds or not, leaves a key only the records it held,
    and the written key also those of the entry rounded down to whole milliseconds. -/
theorem recordsIn_writeEntry_subset {key : CacheKey} {entry : CacheEntry} {time : Nat}
    {f : Folder} (hwf : ∀ q ∈ entry.records, q.WellFormed) {k : CacheKey}
    (hk : CacheKey.isKeyText k.text = true) {r : CacheRecord}
    (hr : r ∈ recordsIn ((writeEntry key entry time).run.run f).2 k) :
    r ∈ recordsIn f k ∨ k = key ∧ ∃ q ∈ entry.records, r = q.floorMillis := by
  rcases hrun : (writeEntry key entry time).run.run f with ⟨_ | ⟨⟩, g⟩ <;> rw [hrun] at hr
  · -- A failed write leaves every name but the temporary one.
    exact .inl (recordsIn_subset_of_slot?
      (.inl (writeEntry_of_error hrun _ (fileName_ne_tempName_of_isKeyText hk))) hr)
  obtain ⟨data, hencode, hg, -, hslot⟩ := writeEntry_slot? hrun
  by_cases hkey : k = key
  · -- The written key's file holds the encoded entry, which decodes rounded down.
    subst hkey
    rw [(recordsIn_of_slot?_file hg (by rw [hslot, if_pos rfl])).1 _
      (Codec.decode_of_encode hwf hencode)] at hr
    obtain ⟨q, hq, rfl⟩ := List.mem_map.1 hr
    exact .inr ⟨rfl, q, hq, rfl⟩
  · have hname : fileName k ≠ fileName key := fun h => hkey (fileName_injective h)
    refine .inl (recordsIn_subset_of_slot? (.inl ?_) hr)
    rw [hslot, if_neg hname, if_neg (fileName_ne_tempName_of_isKeyText hk)]

end FileStore

/-! ### Stores whose records come from a source -/

namespace ResponseStore

/-- Every record the store holds under a key is one that `P` allows under that key, as the
    store keeps it: in memory as it is, in the folder rounded down to whole milliseconds. -/
def From (P : CacheKey → CacheRecord → Prop) : ResponseStore → Prop
  | .memory s => ∀ k e, (k, e) ∈ s.entries → ∀ r ∈ e.records, P k r
  | .file s => ∀ k, CacheKey.isKeyText k.text = true → ∀ r ∈ FileStore.recordsIn s.folder k,
      ∃ r₀, P k r₀ ∧ r = r₀.floorMillis

variable {P : CacheKey → CacheRecord → Prop}

theorem lookup_snd_memory (m : MemoryStore) (key : CacheKey) (sent : VaryKeys) :
    (ServiceClient.lookup (.memory m) key sent).2 = .memory (m.touch key) := rfl

theorem lookup_snd_file (s : FileStore) (key : CacheKey) (sent : VaryKeys) :
    (ServiceClient.lookup (.file s) key sent).2 = .file (s.findAll key).2 := by
  simp only [ServiceClient.lookup, ResponseStore.findAll]
  rcases s.findAll key with ⟨_ | records, s'⟩ <;> rfl

@[simp] theorem inMemory_lookup (s : ResponseStore) (key : CacheKey) (sent : VaryKeys) :
    (ServiceClient.lookup s key sent).2.inMemory = s.inMemory := by
  cases s with
  | memory m => rfl
  | file s => rw [lookup_snd_file]; rfl

@[simp] theorem inMemory_keep (s : ResponseStore) (key : CacheKey) (record : CacheRecord)
    (time : Instant) : (ServiceClient.keep s key record time).inMemory = s.inMemory := by
  cases s with
  | memory m => rfl
  | file s => rw [ServiceClient.keep, store_file]; rfl

@[simp] theorem inMemory_invalidateAll (s : ResponseStore) :
    s.invalidateAll.inMemory = s.inMemory := by
  cases s <;> rfl

/-- A store after an invalidation holds nothing. -/
theorem from_invalidateAll (s : ResponseStore) : s.invalidateAll.From P := by
  cases s with
  | memory m =>
    intro k e he
    simp [MemoryStore.invalidateAll] at he
  | file s =>
    intro k _ r hr
    change r ∈ FileStore.recordsIn s.invalidateAll.folder k at hr
    rw [FileStore.recordsIn_invalidateAll] at hr
    cases hr

/-- A look-up keeps a store to the records `P` allows. -/
theorem From.lookup {s : ResponseStore} (h : s.From P) (key : CacheKey) (sent : VaryKeys) :
    (ServiceClient.lookup s key sent).2.From P := by
  cases s with
  | memory m =>
    rw [lookup_snd_memory]
    intro k e he
    exact h k e (MemoryStore.mem_entries_touch he)
  | file s =>
    rw [lookup_snd_file]
    intro k hk r hr
    rw [FileStore.recordsIn_findAll] at hr
    exact h k hk r hr

/-- Keeping a well-formed record that `P` allows keeps a store to the records `P` allows,
    whether the store succeeds or not. -/
theorem From.keep {s : ResponseStore} (h : s.From P) {key : CacheKey} {record : CacheRecord}
    (hP : P key record) (hrecord : record.WellFormed) (time : Instant) :
    (ServiceClient.keep s key record time).From P := by
  cases s with
  | memory m =>
    intro k e he r hr
    rcases MemoryStore.mem_entries_store he with he | he
    · exact h k e he r hr
    · -- The key's entry, with the record upserted.
      obtain ⟨rfl, rfl⟩ := Prod.mk.inj he
      rcases CacheEntry.mem_upsert hr with hr | rfl
      · cases hentry : m.entry? k with
        | none => simp [hentry] at hr
        | some e₀ =>
          rw [hentry] at hr
          exact h k e₀ (MemoryStore.mem_entries_of_entry? hentry) r hr
      · exact hP
  | file s =>
    rw [ServiceClient.keep, store_file]
    intro k hk r hr
    rcases FileStore.recordsIn_store_subset hrecord hk hr with hr | ⟨rfl, rfl⟩
    · exact h k hk r hr
    · exact ⟨record, hP, rfl⟩

/-- A folder that only lost files keeps a store to the records `P` allows. -/
theorem From.shrinks {s : FileStore} (h : (ResponseStore.file s).From P) {g : Folder}
    (hs : s.folder.Shrinks g) : (ResponseStore.file { s with folder := g }).From P :=
  fun k hk r hr => h k hk r (FileStore.recordsIn_subset_of_shrinks hs hr)

/-- What a store keeps to the records `P` allows holds under a key is one of them, or one of
    them rounded down to whole milliseconds. -/
theorem From.held {s : ResponseStore} (h : s.From P) {k : CacheKey}
    (hk : CacheKey.isKeyText k.text = true) {r : CacheRecord} (hr : r ∈ s.held k) :
    ∃ r₀, P k r₀ ∧ (r = r₀ ∨ r = r₀.floorMillis) := by
  cases s with
  | memory m =>
    rw [held_memory] at hr
    cases hentry : m.entry? k with
    | none => simp [hentry] at hr
    | some e =>
      rw [hentry] at hr
      exact ⟨r, h k e (MemoryStore.mem_entries_of_entry? hentry) r hr, .inl rfl⟩
  | file s =>
    rw [held_file] at hr
    obtain ⟨r₀, hP, rfl⟩ := h k hk r hr
    exact ⟨r₀, hP, .inr rfl⟩

end ResponseStore

/-! ### What a write under way carries -/

/-- The records a write has read from the key's file and holds, to write them back. -/
def WritePhase.readRecords : WritePhase → List CacheRecord
  | .write entry => entry.records
  | _ => []

/-- The records a write under way may still put into the folder: the record of its reply,
    and those it has read. -/
def PendingWrite.carries (w : PendingWrite) : List CacheRecord :=
  w.record :: w.phase.readRecords

namespace PendingWrite

/-- What the write has read is as the folder keeps records: well-formed, in whole
    milliseconds. -/
def ReadKept (w : PendingWrite) : Prop :=
  ∀ r ∈ w.phase.readRecords, r.WellFormed ∧ r.floorMillis = r

/-- The write carries only records that `P` allows under its key: its record, well-formed,
    and what it has read from a key text's file, rounded down as the folder holds it. -/
def TracedTo (P : CacheKey → CacheRecord → Prop) (w : PendingWrite) : Prop :=
  P w.key w.record ∧ w.record.WellFormed ∧
    (CacheKey.isKeyText w.key.text = true →
      ∀ r ∈ w.phase.readRecords, ∃ r₀, P w.key r₀ ∧ r = r₀.floorMillis)

/-- A write that has read nothing keeps what it read. -/
theorem readKept_of_readRecords {w : PendingWrite} (h : w.phase.readRecords = []) :
    w.ReadKept := by
  intro r hr
  rw [h] at hr
  cases hr

/-- A write that has read nothing is traced to `P` by its record. -/
theorem tracedTo_of_readRecords {P : CacheKey → CacheRecord → Prop} {w : PendingWrite}
    (hP : P w.key w.record) (hwf : w.record.WellFormed) (h : w.phase.readRecords = []) :
    w.TracedTo P := by
  refine ⟨hP, hwf, fun _ r hr => ?_⟩
  rw [h] at hr
  cases hr

end PendingWrite

/-! ### Steps -/

namespace SharedCache

variable {c c' : SharedCache} {a : CacheStep} {P : CacheKey → CacheRecord → Prop}

/-- What one step does, guards included: a look-up and a read wait for their key's lock, a
    part of a write runs on the folder (`advance`), the drop empties the store. -/
inductive Steps : SharedCache → CacheStep → SharedCache → Prop
  | lookup {c : SharedCache} {key : CacheKey} {sent : VaryKeys} {t : Instant}
      (hnow : c.now.nanos ≤ t.nanos) (hfree : c.holdsKey key = false) :
      Steps c (.lookup key sent t)
        { c with store := (ServiceClient.lookup c.store key sent).2, now := t }
  | arriveMemory {c : SharedCache} {key : CacheKey} {record : CacheRecord}
      (hnow : c.now.nanos ≤ record.responseTime.nanos) (hmem : c.store.inMemory = true) :
      Steps c (.arrive key record)
        { c with
          store := ServiceClient.keep c.store key record record.responseTime
          now := record.responseTime }
  | arriveFolder {c : SharedCache} {key : CacheKey} {record : CacheRecord}
      (hnow : c.now.nanos ≤ record.responseTime.nanos) (hmem : c.store.inMemory = false) :
      Steps c (.arrive key record)
        { c with storing := c.storing ++ [⟨key, record, .folder⟩], now := record.responseTime }
  | makeFolder {c : SharedCache} {k : Nat} {key : CacheKey} {record : CacheRecord}
      {s : FileStore} (hk : c.storing[k]? = some ⟨key, record, .folder⟩)
      (hs : c.store = .file s) :
      Steps c (.makeFolder k)
        (c.advance k s (FileStore.change Folder.create) fun _ => ⟨key, record, .read⟩)
  | read {c : SharedCache} {k : Nat} {key : CacheKey} {record : CacheRecord} {s : FileStore}
      (hk : c.storing[k]? = some ⟨key, record, .read⟩) (hs : c.store = .file s)
      (hfree : c.holdsKey key = false) :
      Steps c (.read k)
        (c.advance k s (FileStore.readEntry key) fun entry => ⟨key, record, .write entry⟩)
  | write {c : SharedCache} {k : Nat} {key : CacheKey} {record : CacheRecord}
      {entry : CacheEntry} {s : FileStore} (hk : c.storing[k]? = some ⟨key, record, .write entry⟩)
      (hs : c.store = .file s) :
      Steps c (.write k)
        (c.advance k s (FileStore.writeEntry key (entry.upsert record) record.responseTime.seconds)
          fun _ => ⟨key, record, .trim⟩)
  | trim {c : SharedCache} {k : Nat} {key : CacheKey} {record : CacheRecord} {s : FileStore}
      (hk : c.storing[k]? = some ⟨key, record, .trim⟩) (hs : c.store = .file s) :
      Steps c (.trim k)
        { c with
          store := .file (s.runOn (tryCatch (FileStore.trim s.maxSize key) fun _ => pure ())).2
          storing := c.storing.eraseIdx k }
  | invalidate {c : SharedCache} {t : Instant} (hnow : c.now.nanos ≤ t.nanos) :
      Steps c (.invalidate t) { c with store := c.store.invalidateAll, now := t }

/-- Every step taken is one that `Steps` describes. -/
theorem Steps.of_step (hs : c.step a = some c') : c.Steps a c' := by
  cases a with
  | lookup key sent t =>
    simp only [step] at hs
    split at hs
    · rename_i h
      cases hs
      exact .lookup h.1 h.2
    · cases hs
  | arrive key record =>
    simp only [step] at hs
    split at hs
    · split at hs
      · cases hs
        exact .arriveMemory ‹_› ‹_›
      · cases hs
        exact .arriveFolder ‹_› (Bool.eq_false_iff.2 ‹_›)
    · cases hs
  | makeFolder k =>
    simp only [step] at hs
    split at hs
    · cases hs
      exact .makeFolder ‹_› ‹_›
    · cases hs
  | read k =>
    simp only [step] at hs
    split at hs
    · split at hs
      · cases hs
      · cases hs
        exact .read ‹_› ‹_› (Bool.eq_false_iff.2 ‹_›)
    · cases hs
  | write k =>
    simp only [step] at hs
    split at hs
    · cases hs
      exact .write ‹_› ‹_›
    · cases hs
  | trim k =>
    simp only [step] at hs
    split at hs
    · cases hs
      exact .trim ‹_› ‹_›
    · cases hs
  | invalidate t =>
    simp only [step] at hs
    split at hs
    · cases hs
      exact .invalidate ‹_›
    · cases hs

@[simp] theorem advance_store {α : Type} (k : Nat) (s : FileStore) (part : FolderM α)
    (next : α → PendingWrite) :
    (c.advance k s part next).store = .file { s with folder := (part.run.run s.folder).2 } := by
  unfold advance
  rw [FileStore.runOn_eq]
  rcases part.run.run s.folder with ⟨_ | x, g⟩ <;> rfl

/-- The writes under way after a part of the `k`-th ran: those under way before, and the
    `k`-th gone on as `next` gives from the part's result when it succeeded. -/
theorem forall_mem_advance {α : Type} {k : Nat} {s : FileStore} {part : FolderM α}
    {next : α → PendingWrite} {Q : PendingWrite → Prop} (h : ∀ w ∈ c.storing, Q w)
    (hnext : ∀ x, (part.run.run s.folder).1 = .ok x → Q (next x)) :
    ∀ w ∈ (c.advance k s part next).storing, Q w := by
  unfold advance
  rw [FileStore.runOn_eq]
  rcases hrun : part.run.run s.folder with ⟨_ | x, g⟩
  · exact fun w hw => h w (List.mem_of_mem_eraseIdx hw)
  · intro w hw
    rcases List.mem_or_eq_of_mem_set hw with hw | rfl
    · exact h w hw
    · exact hnext x (by rw [hrun])

/-! ### What a write reads -/

/-- What every write under way has read is as the folder keeps records. -/
def ReadsKept (c : SharedCache) : Prop := ∀ w ∈ c.storing, w.ReadKept

/-- Every step keeps what the writes have read as the folder keeps records: a read takes the
    records of a key's file. -/
theorem ReadsKept.step (h : c.ReadsKept) (hs : c.Steps a c') : c'.ReadsKept := by
  cases hs with
  | lookup => exact h
  | arriveMemory => exact h
  | arriveFolder =>
    intro w hw
    rcases List.mem_append.1 hw with hw | hw
    · exact h w hw
    · rw [List.mem_singleton.1 hw]
      exact PendingWrite.readKept_of_readRecords rfl
  | makeFolder => exact forall_mem_advance h fun _ _ => PendingWrite.readKept_of_readRecords rfl
  | read =>
    refine forall_mem_advance h fun entry hentry => ?_
    rw [FileStore.readEntry_eq_of_fst hentry]
    exact FileStore.recordsIn_wellFormed _ _
  | write => exact forall_mem_advance h fun _ _ => PendingWrite.readKept_of_readRecords rfl
  | trim => exact fun w hw => h w (List.mem_of_mem_eraseIdx hw)
  | invalidate => exact h

/-- In every state a schedule reaches, what the writes have read is as the folder keeps
    records. -/
theorem Reachable.readsKept (hc : Reachable c) : c.ReadsKept := by
  induction hc with
  | init store now => nofun
  | step a _ hs ih => exact ih.step (Steps.of_step hs)

/-- In memory no write is ever under way: there a call stores in the step its reply
    arrives, and every part of a write runs on the folder and leaves it the store. -/
theorem Reachable.storing_of_inMemory (hc : Reachable c) :
    c.store.inMemory = true → c.storing = [] := by
  induction hc with
  | init store now => intro _; rfl
  | step a _ hs ih =>
    intro hm
    cases Steps.of_step hs with
    | lookup => exact ih (by simpa using hm)
    | arriveMemory => exact ih (by simpa using hm)
    | arriveFolder _ hmem =>
      rw [hmem] at hm
      cases hm
    | makeFolder | read | write =>
      rw [advance_store] at hm
      cases hm
    | trim => cases hm
    | invalidate => exact ih (by simpa using hm)

/-! ### Schedules after a drop -/

/-- A state whose store holds, and whose writes under way carry, only records that `P`
    allows, with what the writes have read as the folder keeps records. -/
structure Traced (P : CacheKey → CacheRecord → Prop) (c : SharedCache) : Prop where
  store : c.store.From P
  storing : ∀ w ∈ c.storing, w.TracedTo P
  kept : c.ReadsKept

/-- A traced state over the folder keeps the folder to the records `P` allows. -/
theorem Traced.store_file (h : c.Traced P) {s : FileStore} (hs : c.store = .file s) :
    (ResponseStore.file s).From P :=
  hs ▸ h.store

/-- The record a write under way writes: the records it read, with its own upserted. -/
theorem Traced.written {w : PendingWrite} {entry : CacheEntry} (hw : w.TracedTo P)
    (hkept : w.ReadKept) (hphase : w.phase = .write entry)
    (hk : CacheKey.isKeyText w.key.text = true) {r q : CacheRecord}
    (hq : q ∈ (entry.upsert w.record).records) (hr : r = q.floorMillis) :
    ∃ r₀, P w.key r₀ ∧ r = r₀.floorMillis := by
  obtain ⟨hP, -, hread⟩ := hw
  rcases CacheEntry.mem_upsert hq with hq | rfl
  · -- A record it read: already rounded down, and traced.
    have hq' : q ∈ w.phase.readRecords := by rw [hphase]; exact hq
    rw [hr, (hkept q hq').2]
    exact hread hk q hq'
  · exact ⟨_, hP, hr⟩

/-- The write of a write under way keeps the folder to the records `P` allows: it puts back
    what it read, with its own record upserted. -/
theorem Traced.store_write (h : c.Traced P) {s : FileStore} (hs : c.store = .file s)
    {w : PendingWrite} (hw : w ∈ c.storing) {entry : CacheEntry} (hphase : w.phase = .write entry)
    (time : Nat) :
    (ResponseStore.file { s with folder :=
      ((FileStore.writeEntry w.key (entry.upsert w.record) time).run.run s.folder).2 }).From P := by
  have htraced := h.storing w hw
  have hkept := h.kept w hw
  have hwf : ∀ q ∈ (entry.upsert w.record).records, q.WellFormed := by
    intro q hq
    rcases CacheEntry.mem_upsert hq with hq | rfl
    · exact (hkept q (by rw [hphase]; exact hq)).1
    · exact htraced.2.1
  intro k hk r hr
  rcases FileStore.recordsIn_writeEntry_subset hwf hk hr with hr | ⟨rfl, q, hq, hrq⟩
  · exact h.store_file hs k hk r hr
  · exact Traced.written htraced hkept hphase hk hq hrq

/-- A step keeps a state traced to `P` when the record that arrives, if any, is a
    well-formed one that `P` allows. -/
theorem Traced.step (h : c.Traced P)
    (harrive : ∀ key record, a = .arrive key record → P key record ∧ record.WellFormed)
    (hs : c.Steps a c') : c'.Traced P := by
  have hkept := h.kept.step hs
  cases hs with
  | lookup => exact ⟨h.store.lookup _ _, h.storing, hkept⟩
  | arriveMemory =>
    obtain ⟨hP, hrecord⟩ := harrive _ _ rfl
    exact ⟨h.store.keep hP hrecord _, h.storing, hkept⟩
  | arriveFolder =>
    obtain ⟨hP, hrecord⟩ := harrive _ _ rfl
    refine ⟨h.store, fun w hw => ?_, hkept⟩
    rcases List.mem_append.1 hw with hw | hw
    · exact h.storing w hw
    · rw [List.mem_singleton.1 hw]
      exact PendingWrite.tracedTo_of_readRecords hP hrecord rfl
  | makeFolder hk hs =>
    obtain ⟨hP, hrecord, -⟩ := h.storing _ (List.mem_of_getElem? hk)
    refine ⟨?_, forall_mem_advance h.storing fun _ _ =>
      PendingWrite.tracedTo_of_readRecords hP hrecord rfl, hkept⟩
    rw [advance_store]
    exact (h.store_file hs).shrinks (FileStore.create_shrinks _)
  | read hk hs =>
    obtain ⟨hP, hrecord, -⟩ := h.storing _ (List.mem_of_getElem? hk)
    have hstore := h.store_file hs
    refine ⟨?_, forall_mem_advance h.storing fun entry hentry => ?_, hkept⟩
    · rw [advance_store]
      exact hstore.shrinks (FileStore.readEntry_shrinks _ _)
    · -- What was read is the key's file, whose records the store keeps to `P`.
      refine ⟨hP, hrecord, fun hkey r hr => ?_⟩
      rw [FileStore.readEntry_eq_of_fst hentry] at hr
      exact hstore _ hkey r hr
  | write hk hs =>
    obtain ⟨hP, hrecord, -⟩ := h.storing _ (List.mem_of_getElem? hk)
    refine ⟨?_, forall_mem_advance h.storing fun _ _ =>
      PendingWrite.tracedTo_of_readRecords hP hrecord rfl, hkept⟩
    rw [advance_store]
    exact h.store_write hs (List.mem_of_getElem? hk) rfl _
  | trim hk hs =>
    refine ⟨?_, fun w hw => h.storing w (List.mem_of_mem_eraseIdx hw), hkept⟩
    exact (h.store_file hs).shrinks (FileStore.OnlyRemoves.tryCatch
      (FileStore.trim_onlyRemoves _ _) (fun _ => FileStore.OnlyRemoves.pure ()) _)
  | invalidate => exact ⟨ResponseStore.from_invalidateAll _, h.storing, hkept⟩

/-- A schedule whose arriving records are well-formed ones that `P` allows keeps a state
    traced to `P`. -/
theorem Traced.runAll : ∀ {c c' : SharedCache} {sched : List CacheStep}, c.Traced P →
    (∀ key record, CacheStep.arrive key record ∈ sched → P key record ∧ record.WellFormed) →
    c.runAll sched = some c' → c'.Traced P
  | _, _, [], h, _, hrun => by
    cases hrun
    exact h
  | _, _, _ :: _, h, harrive, hrun => by
    obtain ⟨c₁, h₁, hrest⟩ := Option.bind_eq_some_iff.1 hrun
    have hfirst := h.step (fun key record ha => harrive key record (ha ▸ List.mem_cons_self))
      (Steps.of_step h₁)
    exact hfirst.runAll (fun key record hmem => harrive key record (List.mem_cons_of_mem _ hmem))
      hrest

/-- After a drop of every record, along any schedule, a record that a look-up of a key finds
    was kept of a reply that arrived after the drop; or, in the folder, it is carried by a
    write under way at the drop: the record of that write's reply, or one the write had read
    from the key's file before the drop. -/
theorem found_after_invalidation {c c₁ c₂ : SharedCache} {t : Instant}
    {sched : List CacheStep} {key : CacheKey} {sent : VaryKeys} {r : CacheRecord}
    (hc : Reachable c) (hinv : c.step (.invalidate t) = some c₁)
    (hrun : c₁.runAll sched = some c₂)
    (hpending : ∀ w ∈ c.storing, w.record.WellFormed)
    (harrive : ∀ k r₀, CacheStep.arrive k r₀ ∈ sched → r₀.WellFormed)
    (hkey : CacheKey.isKeyText key.text = true)
    (hfound : (ServiceClient.lookup c₂.store key sent).1 = some r) :
    ∃ r₀, (CacheStep.arrive key r₀ ∈ sched ∨
        c.store.inMemory = false ∧ ∃ w ∈ c.storing, w.key = key ∧ r₀ ∈ w.carries) ∧
      (r = r₀ ∨ r = r₀.floorMillis) := by
  -- The records allowed: those arriving in the schedule, and those carried at the drop.
  let P : CacheKey → CacheRecord → Prop := fun k r₀ =>
    CacheStep.arrive k r₀ ∈ sched ∨ ∃ w ∈ c.storing, w.key = k ∧ r₀ ∈ w.carries
  have hkept := hc.readsKept
  have h₁ : c₁.Traced P := by
    cases Steps.of_step hinv with
    | invalidate =>
      refine ⟨ResponseStore.from_invalidateAll _, fun w hw => ?_, hkept⟩
      refine ⟨.inr ⟨w, hw, rfl, List.mem_cons_self⟩, hpending w hw, fun _ q hq => ?_⟩
      -- What a write has read it carries, already rounded down.
      exact ⟨q, .inr ⟨w, hw, rfl, List.mem_cons_of_mem _ hq⟩, ((hkept w hw) q hq).2.symm⟩
  have h₂ := h₁.runAll (fun k r₀ hmem => ⟨.inl hmem, harrive k r₀ hmem⟩) hrun
  obtain ⟨r₀, hP, hr⟩ := h₂.store.held hkey (ServiceClient.mem_held_of_lookup hfound)
  rcases hP with harrived | ⟨w, hw, hwkey, hcarried⟩
  · exact ⟨r₀, .inl harrived, hr⟩
  · -- A write under way at the drop: so the records are in the folder.
    have hfolder : c.store.inMemory = false := by
      cases hm : c.store.inMemory
      · rfl
      · rw [hc.storing_of_inMemory hm] at hw
        cases hw
    exact ⟨r₀, .inr ⟨hfolder, w, hw, hwkey, hcarried⟩, hr⟩

/-- A key text, as the key of the flags request. -/
def flagsKey : CacheKey := ⟨"5f4c1b8e2a9d07c3e6b1f8a04d2c9e7b"⟩

/-- A record of the flags, kept of a reply that arrived at one second. -/
def olderRecord : CacheRecord :=
  CacheRecord.create flagsKey "http://mock/api/v1/flags/" 200 [] [91, 93] ⟨500000000⟩
    ⟨1000000000⟩ (Duration.ofSecs 60) {}

/-- A record of the flags, kept of a reply that arrived at four seconds. -/
def newerRecord : CacheRecord :=
  CacheRecord.create flagsKey "http://mock/api/v1/flags/" 200 [] [91, 49, 93] ⟨3000000000⟩
    ⟨4000000000⟩ (Duration.ofSecs 60) {}

theorem wellFormed_newerRecord : newerRecord.WellFormed :=
  ⟨by decide, by decide, by decide, by decide, by decide, List.Pairwise.nil⟩

/-- A memory store of one mebibyte. -/
def memoryStore : MemoryStore := { maxSize := 1048576 }

/-- In memory, a drop at two seconds and then a reply that arrives at four: the record found
    is the one kept of that reply. -/
theorem found_after_invalidation_inMemory :
    ∃ c₁ c₂ r, (init (.memory memoryStore) ⟨0⟩).step (.invalidate ⟨2000000000⟩) = some c₁ ∧
      c₁.runAll [.arrive flagsKey newerRecord] = some c₂ ∧
      (ServiceClient.lookup c₂.store flagsKey {}).1 = some r ∧
      ∃ r₀, (CacheStep.arrive flagsKey r₀ ∈ [CacheStep.arrive flagsKey newerRecord] ∨
          (ResponseStore.memory memoryStore).inMemory = false ∧
            ∃ w ∈ (init (.memory memoryStore) ⟨0⟩).storing, w.key = flagsKey ∧ r₀ ∈ w.carries) ∧
        (r = r₀ ∨ r = r₀.floorMillis) := by
  have harrive : ∀ k r₀, CacheStep.arrive k r₀ ∈ [CacheStep.arrive flagsKey newerRecord] →
      r₀.WellFormed := by
    intro k r₀ h
    rw [List.mem_singleton, CacheStep.arrive.injEq] at h
    rw [h.2]
    exact wellFormed_newerRecord
  have hkey : CacheKey.isKeyText flagsKey.text = true := by decide
  have hinv : (init (.memory memoryStore) ⟨0⟩).step (.invalidate ⟨2000000000⟩) =
      some (init (.memory memoryStore) ⟨2000000000⟩) := rfl
  have hrun : (init (.memory memoryStore) ⟨2000000000⟩).runAll [.arrive flagsKey newerRecord] =
      some
        { store := ServiceClient.keep (.memory memoryStore) flagsKey newerRecord
            newerRecord.responseTime
          now := newerRecord.responseTime } := rfl
  have hfound : (ServiceClient.lookup (ServiceClient.keep (.memory memoryStore) flagsKey
      newerRecord newerRecord.responseTime) flagsKey {}).1 = some newerRecord := by decide
  exact ⟨_, _, _, hinv, hrun, hfound,
    found_after_invalidation (.init _ _) hinv hrun nofun harrive hkey hfound⟩

/-- A folder store of one mebibyte, with no folder yet. -/
def folderStore : FileStore := { maxSize := 1048576 }

/-- A record of the flags in JSON, kept of a reply that arrived at one and a half seconds. -/
def jsonRecord : CacheRecord :=
  CacheRecord.create flagsKey "http://mock/api/v1/flags/" 200 [] [91, 93] ⟨1400000000⟩
    ⟨1500000000⟩ (Duration.ofSecs 60) ⟨[("accept", "application/json")]⟩

/-- A key text, as the key of an identity's request. -/
def identityKey : CacheKey := ⟨"0a1b2c3d4e5f60718293a4b5c6d7e8f9"⟩

/-- A record of an identity's flags, kept of a reply that arrived at two and a half seconds. -/
def identityRecord : CacheRecord :=
  CacheRecord.create identityKey "http://mock/api/v1/identities/" 200 [] [123, 125]
    ⟨2400000000⟩ ⟨2500000000⟩ (Duration.ofSecs 60) {}

/-- In the folder, a call whose reply arrived at one second, before the drop at two, makes the
    folder and writes its record after the drop, and a look-up at three finds it fresh. Where
    the refetch instead finds nothing at three, and its reply, arriving at four, is written
    first, the older record replaces the newer one and is found fresh at five. And where the
    record of one second was stored whole before the drop, a write that read it before the drop
    puts it back once an identity's store has re-made the folder: it is found fresh at three. -/
theorem pending_write_outlives_invalidation :
    olderRecord.responseTime.nanos < 2000000000 ∧
    (∃ c, (init (.file folderStore) ⟨0⟩).runAll
        [.arrive flagsKey olderRecord, .invalidate ⟨2000000000⟩, .makeFolder 0, .read 0,
          .write 0] = some c ∧
      (ServiceClient.lookup c.store flagsKey {}).1 = some olderRecord) ∧
    olderRecord.isFresh ⟨3000000000⟩ = true ∧
    (∃ c, (init (.file folderStore) ⟨0⟩).runAll
        [.arrive flagsKey olderRecord, .invalidate ⟨2000000000⟩] = some c ∧
      (ServiceClient.lookup c.store flagsKey {}).1 = none) ∧
    (∃ c, (init (.file folderStore) ⟨0⟩).runAll
        [.arrive flagsKey olderRecord, .invalidate ⟨2000000000⟩, .lookup flagsKey {} ⟨3000000000⟩,
          .arrive flagsKey newerRecord, .makeFolder 1, .read 1, .write 1, .trim 1,
          .makeFolder 0, .read 0, .write 0] = some c ∧
      (ServiceClient.lookup c.store flagsKey {}).1 = some olderRecord) ∧
    olderRecord.isFresh ⟨5000000000⟩ = true ∧
    (∃ c, (init (.file folderStore) ⟨0⟩).runAll
        [.arrive flagsKey olderRecord, .makeFolder 0, .read 0, .write 0, .trim 0,
          .arrive flagsKey jsonRecord, .makeFolder 0, .read 0, .invalidate ⟨2000000000⟩,
          .arrive identityKey identityRecord, .makeFolder 1, .write 0] = some c ∧
      (ServiceClient.lookup c.store flagsKey {}).1 = some olderRecord) :=
  ⟨by decide, Option.map_eq_some_iff.1 (by decide +kernel), by decide,
    Option.map_eq_some_iff.1 (by decide +kernel), Option.map_eq_some_iff.1 (by decide +kernel),
    by decide, Option.map_eq_some_iff.1 (by decide +kernel)⟩

end SharedCache

end FeatureFlags
