import FeatureFlags.Cache.Folder
import FeatureFlags.Cache.Codec

/-!
# The directory response store

One file per key in the cache folder, named by the key's text and holding the encoded
entry. A write goes to `<key>.tmp` first and is then renamed over the key's file, so a
reader never meets half an entry; a file that does not decode all the same (left by a
crash, or written by someone else) is removed and reads as no records.

The folder is kept within a byte budget: after a write, when the files of keys hold more
bytes than the budget, files are deleted oldest first (by modification time, then by
key) until they fit. The file just written goes last, and only when it alone is over the
budget. Listing the folder removes stale `<key>.tmp` files and counts only regular files
whose name is a key; names that are not UTF-8 are passed over.

Operations run in `FolderM`: a change made before a failure stays, as it does on disk.
-/

namespace FeatureFlags

/-- Runs over the cache folder and may fail with a cache error. -/
abbrev FolderM := ExceptT CacheError (StateM Folder)

/-- A cache file found in the folder. -/
structure CacheFile where
  key : CacheKey
  size : Nat
  modified : Nat

/-- The directory response store. -/
structure FileStore where
  folder : Folder := .absent
  maxSize : Nat
  deriving Inhabited

namespace FileStore

/-- A file system error as a cache error. -/
def ioError (e : IoError) : CacheError := .io e.message

/-- Makes a change to the folder, or fails with its error. -/
def change (f : Folder → Except IoError Folder) : FolderM Unit := do
  match f (← get) with
  | .ok folder => set folder
  | .error e => throw (ioError e)

/-- Makes a change to the folder if it can be made. -/
def attempt (f : Folder → Except IoError Folder) : FolderM Unit :=
  modify fun folder =>
    match f folder with
    | .ok changed => changed
    | .error _ => folder

/-- The name of a key's file. -/
def fileName (key : CacheKey) : List UInt8 := Utf8.encode key.text

/-- The name of a key's file while it is written. -/
def tempName (key : CacheKey) : List UInt8 := Utf8.encode (key.text ++ ".tmp")

/-- The key of a name `<key>.tmp`. -/
def tempKey? (text : String) : Option CacheKey :=
  let cs := text.toList
  if 4 ≤ cs.length && cs.drop (cs.length - 4) = ".tmp".toList then
    CacheKey.ofHex? (String.ofList (cs.take (cs.length - 4)))
  else none

/-- Reads a key's entry: no file is no records, and a file that does not decode is
    removed and is no records too. -/
def readEntry (key : CacheKey) : FolderM CacheEntry := do
  match (← get).read (fileName key) with
  | .error .notFound => pure {}
  | .error e => throw (ioError e)
  | .ok data =>
    match Codec.decode data with
    | .ok entry => pure entry
    | .error _ => do
      attempt (·.removeFile (fileName key))
      pure {}

/-- Writes a key's entry through its temporary file; when the rename fails, the
    temporary file is removed. An entry that cannot be encoded writes nothing. -/
def writeEntry (key : CacheKey) (entry : CacheEntry) (time : Nat) : FolderM Unit := do
  let data ← match Codec.encode entry with
    | .ok data => pure data
    | .error e => throw e
  change (·.write (tempName key) data time)
  match (← get).rename (tempName key) (fileName key) with
  | .ok folder => set folder
  | .error e => do
    attempt (·.removeFile (tempName key))
    throw (ioError e)

/-- The cache files among some folder entries, removing stale temporary files. -/
def scan : List (List UInt8 × Slot) → FolderM (List CacheFile)
  | [] => pure []
  | (name, slot) :: rest => do
    match Utf8.validate name with
    | .error _ => scan rest
    | .ok text =>
      match tempKey? text, CacheKey.ofHex? text, slot with
      | some _, _, _ => do
        attempt (·.removeFile name)
        scan rest
      | none, some key, .file data time => do
        let files ← scan rest
        pure (⟨key, data.length, time⟩ :: files)
      | _, _, _ => scan rest

/-- The cache files of the folder; a missing folder has none. -/
def listFiles : FolderM (List CacheFile) := do
  match (← get).list with
  | .error .notFound => pure []
  | .error e => throw (ioError e)
  | .ok entries => scan entries

/-- The total size of some files. -/
def totalSize (files : List CacheFile) : Nat := natSum (files.map (·.size))

/-- Older first, and by key among files of one time. -/
def olderFirst (a b : CacheFile) : Bool :=
  a.modified < b.modified || (a.modified = b.modified && a.key.text ≤ b.key.text)

/-- Deletes files in order while the total is over the budget; a file that is already
    gone counts as deleted, and one that cannot be deleted is passed over. -/
def evict (maxSize : Nat) : List CacheFile → Nat → FolderM Unit
  | [], _ => pure ()
  | file :: rest, total =>
    if total ≤ maxSize then pure ()
    else do
      match (← get).removeFile (fileName file.key) with
      | .ok folder => do
        set folder
        evict maxSize rest (total - file.size)
      | .error .notFound => evict maxSize rest (total - file.size)
      | .error _ => evict maxSize rest total

/-- Brings the folder within the budget after a write of `written`. -/
def trim (maxSize : Nat) (written : CacheKey) : FolderM Unit := do
  let files ← listFiles
  let total := totalSize files
  if total ≤ maxSize then return
  let sorted := files.mergeSort olderFirst
  let others := sorted.filter (·.key ≠ written)
  let oversized := sorted.filter fun f => f.key = written && f.size > maxSize
  evict maxSize (others ++ oversized) total

/-- Runs an operation on the store's folder. -/
def runOn (s : FileStore) (op : FolderM α) : Except CacheError α × FileStore :=
  let (result, folder) := op.run.run s.folder
  (result, { s with folder })

/-- The records of a key. -/
def findAll (s : FileStore) (key : CacheKey) : Except CacheError (List CacheRecord) × FileStore :=
  s.runOn do pure (← readEntry key).records

/-- The record of a key with some vary keys. -/
def find (s : FileStore) (key : CacheKey) (vary : VaryKeys) :
    Except CacheError (Option CacheRecord) × FileStore :=
  s.runOn do pure ((← readEntry key).find? vary)

/-- Stores a record under a key, its file written at `time`, and then trims the folder;
    a failure to trim is not the store's. -/
def store (s : FileStore) (key : CacheKey) (record : CacheRecord) (time : Nat) :
    Except CacheError Unit × FileStore :=
  s.runOn do
    change Folder.create
    let entry ← readEntry key
    writeEntry key (entry.upsert record) time
    tryCatch (trim s.maxSize key) fun _ => pure ()

/-- Removes the folder with everything in it, if it can be removed. -/
def invalidateAll (s : FileStore) : FileStore :=
  { s with folder := s.folder.removeAll }

/-- The total size of the cache files. -/
def sizeBytes (s : FileStore) : Except CacheError Nat × FileStore :=
  s.runOn do pure (totalSize (← listFiles))

end FileStore

end FeatureFlags
