import FeatureFlags.Proofs.Cache.FolderSlots
import FeatureFlags.Proofs.Cache.Decoded

/-!
# What the folder keeps across calls

The directory store keeps its records in the folder, so what a key holds outlives the store
value: a new store over the same folder, as after a restart, finds what the old one wrote.
Over any calls, from any folder in which the entry of every key can be read, a look-up of a
key finds exactly what a ledger kept beside the calls holds (`FolderCall.ledger`):

* a store upserts its record, rounded down to whole milliseconds, into its key's records,
  and empties every key whose file it leaves missing, as trimming does;
* an invalidation empties every key;
* look-ups and restarts change nothing.

The ledger starts from what the files of the folder hold, and a file that does not decode
holds nothing: a look-up reports it empty and removes it, and the next store under its key
starts from no records.

The invariant carried along the calls is `FileStore.Keeps`: the entry of every key can be
read, and the records of every key's file are the ledger's.

* `FileStore.recordsIn_store`: what each key holds after a store;
* `FileStore.Keeps.call`: one call keeps the invariant, with the ledger moved on;
* `FileStore.findAll_answerAll`: after any calls, a look-up finds the ledger's records.
-/

namespace FeatureFlags

/-! ### Rounding records to whole milliseconds -/

namespace Instant

/-- Rounding down keeps an instant in range. -/
theorem inRange_floorMillis {t : Instant} (h : t.InRange) : t.floorMillis.InRange := by
  simp only [InRange, floorMillis, millis, last, minMillis, maxMillis] at h ⊢
  omega

end Instant

namespace CacheRecord

theorem WellFormed.floorMillis {r : CacheRecord} (h : r.WellFormed) : r.floorMillis.WellFormed where
  key := h.key
  status := h.status
  requestTime := Instant.inRange_floorMillis h.requestTime
  responseTime := Instant.inRange_floorMillis h.responseTime
  expiresAt := Instant.inRange_floorMillis h.expiresAt
  vary := h.vary

end CacheRecord

/-- Rounding after an upsert into records of whole milliseconds is upserting the rounded
    record: rounding keeps the vary keys. -/
theorem CacheEntry.records_upsert_floorMillis (e : CacheEntry) (r : CacheRecord)
    (he : ∀ q ∈ e.records, q.floorMillis = q) :
    (e.upsert r).records.map CacheRecord.floorMillis = (e.upsert r.floorMillis).records := by
  have hkept : ∀ q ∈ e.records.filter (·.vary ≠ r.vary), q.floorMillis = q :=
    fun q hq => he q (List.mem_filter.1 hq).1
  simp only [CacheEntry.upsert, List.map_append, List.map_cons, List.map_nil]
  rw [List.map_congr_left hkept, List.map_id']
  rfl

/-! ### Folders whose entries can be read -/

namespace Folder

open FileStore

/-- A folder in which the entry of every key can be read: it is not blocked, and no
    directory stands at the name of a key's file. -/
structure EntriesReadable (f : Folder) : Prop where
  not_blocked : f ≠ .blocked
  no_dir : ∀ key : CacheKey, CacheKey.isKeyText key.text = true → f.slot? (fileName key) ≠ some .dir

theorem EntriesReadable.shrinks {f g : Folder} (h : f.EntriesReadable) (hs : Shrinks f g) :
    g.EntriesReadable where
  not_blocked hb := h.not_blocked (hs.blocked hb)
  no_dir key hkey := by
    rcases hs.slot (fileName key) with hslot | hslot
    · rw [hslot]
      exact h.no_dir key hkey
    · rw [hslot]
      nofun

/-- A write of a key's file in a folder whose entries can be read leaves one whose entries
    can be read. -/
theorem EntriesReadable.written {f written : Folder} (h : f.EntriesReadable)
    (hwritten : written ≠ .blocked) {key : CacheKey} {data : List UInt8} {time : Nat}
    (hslot : ∀ n, written.slot? n = if n = fileName key then some (.file data time)
      else if n = tempName key then none else f.slot? n) : written.EntriesReadable := by
  refine ⟨hwritten, fun k hk => ?_⟩
  rw [hslot]
  split
  · nofun
  · split
    · nofun
    · exact h.no_dir k hk

end Folder

namespace FileStore

open Folder

/-- Every record a key's file holds is well-formed and a whole millisecond. -/
theorem recordsIn_wellFormed (f : Folder) (key : CacheKey) :
    ∀ r ∈ recordsIn f key, r.WellFormed ∧ r.floorMillis = r := by
  unfold recordsIn
  split
  · split
    · exact Codec.wellFormed_of_decode ‹_›
    · nofun
  · nofun

/-- A look-up in a folder whose entries can be read finds the records of the key's file. -/
theorem findAll_of_readable {s : FileStore} (hs : s.folder.EntriesReadable) {key : CacheKey}
    (hkey : CacheKey.isKeyText key.text = true) : (s.findAll key).1 = .ok (recordsIn s.folder key) := by
  rw [findAll_eq, readEntry_run, recordsIn, read_eq hs.not_blocked]
  rcases hslot : s.folder.slot? (fileName key) with _ | ⟨data, time⟩ | _
  · rfl
  · dsimp only
    rcases Codec.decode data with e | entry <;> rfl
  · exact absurd hslot (hs.no_dir key hkey)

/-- A look-up of a key whose file does not decode reports no records and removes the file. -/
theorem findAll_of_undecodable {s : FileStore} (hs : s.folder.EntriesReadable) {key : CacheKey}
    {data : List UInt8} {time : Nat} (hslot : s.folder.slot? (fileName key) = some (.file data time))
    {e : CacheError} (hdecode : Codec.decode data = .error e) :
    (s.findAll key).1 = .ok [] ∧ (s.findAll key).2.folder.slot? (fileName key) = none := by
  have hread : s.folder.read (fileName key) = .ok data := by
    rw [read_eq hs.not_blocked, hslot]
  rw [findAll_eq, readEntry_run, hread]
  dsimp only
  rw [hdecode]
  dsimp only
  refine ⟨rfl, ?_⟩
  split
  · rw [removeFile_slot? ‹_›, if_pos rfl]
  · -- A file can always be removed from a folder that is not blocked.
    rename_i hremove
    obtain ⟨entries, hentries⟩ : ∃ entries, s.folder = .present entries := by
      cases hf : s.folder with
      | absent => rw [hf] at hslot; cases hslot
      | blocked => exact absurd hf hs.not_blocked
      | present entries => exact ⟨entries, rfl⟩
    rw [hentries] at hremove hslot
    rw [removeFile_of_slot?_file hslot] at hremove
    cases hremove

/-! ### What a store leaves -/

/-- A key whose name holds the encoded records of a folder's file with a well-formed record
    upserted holds them again, rounded down to whole milliseconds. -/
theorem recordsIn_of_written {f g : Folder} (hf : f ≠ .blocked) {key : CacheKey}
    {record : CacheRecord} (hrecord : record.WellFormed) {data : List UInt8} {time : Nat}
    (hencode : Codec.encode ((⟨recordsIn g key⟩ : CacheEntry).upsert record) = .ok data)
    (hslot : f.slot? (fileName key) = some (.file data time)) :
    recordsIn f key = ((⟨recordsIn g key⟩ : CacheEntry).upsert record.floorMillis).records := by
  have hwf : ∀ r ∈ ((⟨recordsIn g key⟩ : CacheEntry).upsert record).records, r.WellFormed := by
    intro r hr
    rcases List.mem_append.1 hr with hr | hr
    · exact (recordsIn_wellFormed g key r (List.mem_filter.1 hr).1).1
    · rw [List.mem_singleton.1 hr]
      exact hrecord
  rw [(recordsIn_of_slot?_file hf hslot).1 _ (Codec.decode_of_encode hwf hencode)]
  exact CacheEntry.records_upsert_floorMillis _ _ fun q hq => (recordsIn_wellFormed _ _ q hq).2

theorem readable_store {s : FileStore} (hs : s.folder.EntriesReadable) {key : CacheKey}
    {record : CacheRecord} {time : Nat} (h : (s.store key record time).1 = .ok ()) :
    (s.store key record time).2.folder.EntriesReadable := by
  obtain ⟨data, -, written, hwritten, hslot, hshrinks⟩ := store_shrinks h
  exact (hs.written hwritten hslot).shrinks hshrinks

/-- After a store that succeeds, a key whose file is gone holds nothing; the stored key holds
    its records with the record upserted, rounded down to whole milliseconds; every other key
    holds what it held. -/
theorem recordsIn_store {s : FileStore} (hs : s.folder.EntriesReadable) {key : CacheKey}
    {record : CacheRecord} {time : Nat} (hrecord : record.WellFormed)
    (h : (s.store key record time).1 = .ok ()) (k : CacheKey) (hk : CacheKey.isKeyText k.text = true) :
    recordsIn (s.store key record time).2.folder k =
      if (s.store key record time).2.folder.slot? (fileName k) = none then []
      else if k = key then ((⟨recordsIn s.folder key⟩ : CacheEntry).upsert record.floorMillis).records
      else recordsIn s.folder k := by
  obtain ⟨data, hencode, written, hwritten, hslot, hshrinks⟩ := store_shrinks h
  have hafter := ((hs.written hwritten hslot).shrinks hshrinks).not_blocked
  split
  · exact recordsIn_of_slot?_none hafter ‹_›
  rename_i hnone
  -- The key's file is still there, so trimming left it as the write did.
  have hsame : (s.store key record time).2.folder.slot? (fileName k) = written.slot? (fileName k) :=
    (hshrinks.slot _).resolve_right hnone
  rw [recordsIn_eq_of_slot? hafter hwritten hsame]
  split
  · -- The stored key: its file holds the encoded records, which read back rounded down.
    rename_i hkey
    subst hkey
    exact recordsIn_of_written hwritten hrecord hencode (by rw [hslot, if_pos rfl])
  · -- Another key: neither its name nor the temporary name was written.
    rename_i hne
    have hname : fileName k ≠ fileName key := fun h => hne (fileName_injective h)
    rw [recordsIn_eq_of_slot? hwritten hs.not_blocked (by
      rw [hslot, if_neg hname, if_neg (fileName_ne_tempName_of_isKeyText hk)])]

/-- After a store that succeeds, the stored key holds its records with the record upserted,
    rounded down to whole milliseconds, unless trimming removed its file. Nothing is asked of
    the files of other keys. -/
theorem recordsIn_store_self {s : FileStore} {key : CacheKey} {record : CacheRecord} {time : Nat}
    (hrecord : record.WellFormed) (h : (s.store key record time).1 = .ok ()) :
    recordsIn (s.store key record time).2.folder key =
        ((⟨recordsIn s.folder key⟩ : CacheEntry).upsert record.floorMillis).records ∨
      recordsIn (s.store key record time).2.folder key = [] := by
  obtain ⟨data, hencode, written, hwritten, hslot, hshrinks⟩ := store_shrinks h
  have hafter : (s.store key record time).2.folder ≠ .blocked :=
    fun hb => hwritten (hshrinks.blocked hb)
  rcases hshrinks.slot (fileName key) with hsame | hnone
  · exact .inl (recordsIn_of_written hafter hrecord hencode (by rw [hsame, hslot, if_pos rfl]))
  · exact .inr (recordsIn_of_slot?_none hafter hnone)

/-- After a store, whether it succeeds or not, a key holds only records it held, and the
    stored key also the record rounded down to whole milliseconds. -/
theorem recordsIn_store_subset {s : FileStore} {key : CacheKey} {record : CacheRecord}
    {time : Nat} (hrecord : record.WellFormed) {k : CacheKey}
    (hk : CacheKey.isKeyText k.text = true) {r : CacheRecord}
    (hr : r ∈ recordsIn (s.store key record time).2.folder k) :
    r ∈ recordsIn s.folder k ∨ k = key ∧ r = record.floorMillis := by
  rcases hres : (s.store key record time).1 with e | u
  · -- A store that fails writes no key's file, and may remove one.
    exact .inl (recordsIn_subset_of_slot? (store_of_error hres _ (fileName_ne_tempName_of_isKeyText hk)) hr)
  by_cases hkey : k = key
  · subst hkey
    rcases recordsIn_store_self hrecord hres with hafter | hafter <;> rw [hafter] at hr
    · exact (CacheEntry.mem_upsert hr).imp id fun h => ⟨rfl, h⟩
    · cases hr
  · -- Another key's file is as it was, or trimmed away.
    obtain ⟨data, -, written, -, hslot, hshrinks⟩ := store_shrinks hres
    have hname : fileName k ≠ fileName key := fun h => hkey (fileName_injective h)
    have hwritten : written.slot? (fileName k) = s.folder.slot? (fileName k) := by
      rw [hslot, if_neg hname, if_neg (fileName_ne_tempName_of_isKeyText hk)]
    refine .inl (recordsIn_subset_of_slot? ?_ hr)
    rw [← hwritten]
    exact hshrinks.slot _

/-- After an invalidation no key holds a record: the folder is gone, or blocked. -/
theorem recordsIn_invalidateAll (s : FileStore) (k : CacheKey) :
    recordsIn s.invalidateAll.folder k = [] := by
  simp only [invalidateAll, removeAll]
  split <;> rfl

end FileStore

/-! ### Calls and the ledger -/

/-- A call on the directory store; `reopen` starts a new store over the same folder, with a
    budget of its own. -/
inductive FolderCall where
  | store (key : CacheKey) (record : CacheRecord) (time : Nat)
  | findAll (key : CacheKey)
  | invalidateAll
  | reopen (maxSize : Nat)

/-- The answer to a call on the directory store. -/
inductive FolderAnswer where
  | stored (result : Except CacheError Unit)
  | found (result : Except CacheError (List CacheRecord))
  | done

namespace FolderCall

/-- What callers promise: a stored record is well-formed, as the types of its fields have it. -/
def Valid : FolderCall → Prop
  | .store _ record _ => record.WellFormed
  | _ => True

/-- The records each key holds after a call, from those it held before and the folder the call
    leaves: a store upserts its record, rounded down to whole milliseconds, into its key's
    records, and empties every key whose file is missing after it; an invalidation empties
    every key; a look-up and a restart change nothing. -/
def ledger (held : CacheKey → List CacheRecord) (after : Folder) :
    FolderCall → CacheKey → List CacheRecord
  | .store key record _ => fun k =>
    if after.slot? (FileStore.fileName k) = none then []
    else if k = key then ((⟨held k⟩ : CacheEntry).upsert record.floorMillis).records
    else held k
  | .invalidateAll => fun _ => []
  | _ => held

end FolderCall

namespace FileStore

open Folder

/-- Answers a call. -/
def call (s : FileStore) : FolderCall → FolderAnswer × FileStore
  | .store key record time => (.stored (s.store key record time).1, (s.store key record time).2)
  | .findAll key => (.found (s.findAll key).1, (s.findAll key).2)
  | .invalidateAll => (.done, s.invalidateAll)
  | .reopen maxSize => (.done, { folder := s.folder, maxSize })

/-- The ledger after some calls, from what each key held before them. -/
def ledgerAfter (s : FileStore) (held : CacheKey → List CacheRecord) :
    List FolderCall → CacheKey → List CacheRecord
  | [] => held
  | c :: cs => ledgerAfter (s.call c).2 (c.ledger held (s.call c).2.folder) cs

/-- The folder keeps a ledger: the entry of every key can be read, and the file of every key
    holds the ledger's records. -/
structure Keeps (s : FileStore) (held : CacheKey → List CacheRecord) : Prop where
  readable : s.folder.EntriesReadable
  records : ∀ key : CacheKey, CacheKey.isKeyText key.text = true → recordsIn s.folder key = held key

/-- One call keeps the ledger, moved on by the call, unless it is a store that fails. -/
theorem Keeps.call {s : FileStore} {held : CacheKey → List CacheRecord} (h : Keeps s held)
    {c : FolderCall} (hc : c.Valid) (hstored : ∀ e, (s.call c).1 ≠ .stored (.error e)) :
    Keeps (s.call c).2 (c.ledger held (s.call c).2.folder) := by
  cases c with
  | store key record time =>
    have hok : (s.store key record time).1 = .ok () := by
      rcases hres : (s.store key record time).1 with e | u
      · exact absurd (by simp only [FileStore.call, hres]) (hstored e)
      · rfl
    refine ⟨readable_store h.readable hok, fun k hk => ?_⟩
    show recordsIn (s.store key record time).2.folder k =
      if (s.store key record time).2.folder.slot? (fileName k) = none then []
      else if k = key then ((⟨held k⟩ : CacheEntry).upsert record.floorMillis).records else held k
    rw [recordsIn_store h.readable hc hok k hk]
    by_cases hnone : (s.store key record time).2.folder.slot? (fileName k) = none
    · rw [if_pos hnone, if_pos hnone]
    rw [if_neg hnone, if_neg hnone]
    by_cases hkey : k = key
    · rw [if_pos hkey, if_pos hkey, ← hkey, h.records k hk]
    · rw [if_neg hkey, if_neg hkey, h.records k hk]
  | findAll key =>
    have hshrinks : Shrinks s.folder (s.findAll key).2.folder := by
      rw [findAll_eq]
      exact readEntry_shrinks key s.folder
    exact ⟨h.readable.shrinks hshrinks, fun k hk => (recordsIn_findAll s key k).trans (h.records k hk)⟩
  | invalidateAll =>
    -- A folder that is not blocked is removed whole.
    have habsent : s.invalidateAll.folder = .absent := by
      simp only [invalidateAll, removeAll]
      split
      · exact absurd ‹_› h.readable.not_blocked
      · rfl
    refine ⟨?_, fun k _ => ?_⟩
    · show s.invalidateAll.folder.EntriesReadable
      rw [habsent]
      exact ⟨nofun, fun _ _ => by simp⟩
    · show recordsIn s.invalidateAll.folder k = []
      rw [habsent]
      exact recordsIn_of_slot?_none (f := .absent) nofun rfl
  | reopen maxSize => exact ⟨h.readable, h.records⟩

/-- The ledger is kept along any calls whose stores succeed. -/
theorem keeps_answerAll : ∀ (calls : List FolderCall) {s : FileStore}
    {held : CacheKey → List CacheRecord}, Keeps s held → (∀ c ∈ calls, c.Valid) →
    (∀ e, FolderAnswer.stored (.error e) ∉ (answerAll FileStore.call s calls).1) →
    Keeps (answerAll FileStore.call s calls).2 (ledgerAfter s held calls)
  | [], _, _, h, _, _ => h
  | c :: cs, s, held, h, hvalid, hstored => by
    simp only [answerAll, List.mem_cons, not_or] at hstored
    exact keeps_answerAll cs (h.call (hvalid c List.mem_cons_self) fun e he => (hstored e).1 he.symm)
      (fun c' hc' => hvalid c' (List.mem_cons_of_mem _ hc')) fun e => (hstored e).2

/-- Over any calls whose stores succeed, from a folder in which the entry of every key can be
    read, a look-up of a key afterwards finds exactly the ledger's records, the ledger starting
    from what the files of the folder hold. A file that does not decode holds nothing: the
    ledger starts its key empty, and a look-up reports it empty and removes it. -/
theorem findAll_answerAll (s : FileStore) (hs : s.folder.EntriesReadable)
    (calls : List FolderCall) (hvalid : ∀ c ∈ calls, c.Valid)
    (hstored : ∀ e, FolderAnswer.stored (.error e) ∉ (answerAll FileStore.call s calls).1)
    (key : CacheKey) (hkey : CacheKey.isKeyText key.text = true) :
    ((answerAll FileStore.call s calls).2.findAll key).1 =
        .ok (ledgerAfter s (recordsIn s.folder) calls key) ∧
      ∀ data time, s.folder.slot? (fileName key) = some (.file data time) →
        ∀ e, Codec.decode data = .error e →
          recordsIn s.folder key = [] ∧ (s.findAll key).1 = .ok [] ∧
            (s.findAll key).2.folder.slot? (fileName key) = none := by
  have hkeeps := keeps_answerAll calls ⟨hs, fun _ _ => rfl⟩ hvalid hstored
  refine ⟨?_, fun data time hslot e hdecode => ?_⟩
  · rw [findAll_of_readable hkeeps.readable hkey, hkeeps.records key hkey]
  · exact ⟨(recordsIn_of_slot?_file hs.not_blocked hslot).2 e hdecode,
      findAll_of_undecodable hs hslot hdecode⟩

/-- A key text. -/
def restartKey : CacheKey := ⟨"0123456789abcdef0123456789abcdef"⟩

/-- A record of `restartKey` whose times fall inside milliseconds. -/
def restartRecord : CacheRecord where
  key := restartKey
  url := "http://mock/"
  status := 200
  headers := []
  body := [123, 125]
  requestTime := ⟨1500000⟩
  responseTime := ⟨2500000⟩
  expiresAt := ⟨60002500000⟩
  vary := {}

/-- A store whose folder holds a file of `restartKey` that does not decode. -/
def corruptStore : FileStore where
  folder := .present [(fileName restartKey, .file [0] 0)]
  maxSize := 4096

/-- A look-up, a store and a restart. -/
def restartCalls : List FolderCall :=
  [.findAll restartKey, .store restartKey restartRecord 7, .reopen 1024]

/-- A look-up, a store and a restart over a folder where `restartKey`'s file does not decode:
    the look-up reports it empty and removes it, the store starts from no records, and a look-up
    after the restart finds what the ledger holds. -/
theorem findAll_answerAll_restart :
    let s := corruptStore
    let calls := restartCalls
    s.folder.EntriesReadable ∧ (∀ c ∈ calls, c.Valid) ∧
      (∀ e, FolderAnswer.stored (.error e) ∉ (answerAll FileStore.call s calls).1) ∧
      CacheKey.isKeyText restartKey.text = true ∧
      (((answerAll FileStore.call s calls).2.findAll restartKey).1 =
          .ok (ledgerAfter s (recordsIn s.folder) calls restartKey) ∧
        ∀ data time, s.folder.slot? (fileName restartKey) = some (.file data time) →
          ∀ e, Codec.decode data = .error e →
            recordsIn s.folder restartKey = [] ∧ (s.findAll restartKey).1 = .ok [] ∧
              (s.findAll restartKey).2.folder.slot? (fileName restartKey) = none) := by
  intro s calls
  have hs : s.folder.EntriesReadable := by
    refine ⟨nofun, fun key _ => ?_⟩
    simp only [s, corruptStore, slot?, List.find?_cons, List.find?_nil]
    split <;> simp
  have hvalid : ∀ c ∈ calls, c.Valid := by
    simp only [calls, restartCalls, List.mem_cons, List.not_mem_nil, or_false, forall_eq_or_imp, forall_eq]
    refine ⟨trivial, ?_, trivial⟩
    exact ⟨by decide, by decide, by decide, by decide, by decide, List.Pairwise.nil⟩
  have hanswers : (answerAll FileStore.call s calls).1 =
      [.found (.ok []), .stored (.ok ()), .done] := by rfl
  have hstored : ∀ e, FolderAnswer.stored (.error e) ∉ (answerAll FileStore.call s calls).1 := by
    rw [hanswers]
    simp
  have hkey : CacheKey.isKeyText restartKey.text = true := by decide
  exact ⟨hs, hvalid, hstored, hkey, findAll_answerAll s hs calls hvalid hstored restartKey hkey⟩

end FileStore

end FeatureFlags
