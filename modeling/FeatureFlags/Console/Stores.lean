import FeatureFlags.Console.Cache
import FeatureFlags.Cache.Memory
import FeatureFlags.Cache.FileStore

/-!
# Console commands on the response stores

* `memory_store`: steps an in-memory store;
* `file_store`: steps a directory store, and also writes, lists and blocks its folder
  directly, as a crash or another program would.

A key is given by `key`, or as the key of a `GET` of `url` (or of `method`); a store step
without either uses the record's own key. File times are the step's turn: every write
leaves its file at time `1600000000 + 10·k`, where `k` counts the writes so far.
-/

namespace FeatureFlags

namespace Console

/-- The key that a step names, if it names one. -/
def namedKey? (op : Json) : Except UrlError (Option CacheKey) :=
  match (op.get? "key").bind Json.getString?, (op.get? "url").bind Json.getString? with
  | some k, _ => .ok (some ⟨k⟩)
  | none, some u => (Url.parse u).map fun url => some (CacheKey.ofRequest (stringOr op "method" "GET") url)
  | none, none => .ok none

/-- The key that a look-up step names. -/
def lookupKey (op : Json) : Except UrlError CacheKey :=
  (namedKey? op).map (·.getD ⟨""⟩)

/-- A list of records in an answer. -/
def recordsView (records : List CacheRecord) : Json :=
  .array (records.map recordView)

/-- The record and key of a store step. -/
def storeArguments (op : Json) : Except UrlError (CacheKey × CacheRecord) := do
  let record ← recordOf (field op "record")
  let key ← namedKey? op
  pure (key.getD record.key, record)

/-- A result or its cache error. -/
def resultOr (view : α → Json) : Except CacheError α → Json
  | .ok a => view a
  | .error e => cacheError e

/-- One step on an in-memory store. -/
def memoryStep (s : MemoryStore) (op : Json) : Json × MemoryStore :=
  match stringOr op "op" "" with
  | "store" =>
    match storeArguments op with
    | .ok (key, record) => (.string "ok", s.store key record)
    | .error e => (urlError e, s)
  | "find_all" =>
    match lookupKey op with
    | .ok key => let (records, s) := s.findAll key; (recordsView records, s)
    | .error e => (urlError e, s)
  | "find" =>
    match lookupKey op with
    | .ok key =>
      let (record, s) := s.find key (varyOf (field op "vary"))
      (optional recordView record, s)
    | .error e => (urlError e, s)
  | "invalidate_all" => (.string "ok", s.invalidateAll)
  | "size_bytes" => (nat s.sizeBytes, s)
  | other => (error "DriverInput" s!"unknown memory_store op {other}", s)

/-- The steps on an in-memory store. -/
def memorySteps : MemoryStore → List Json → List Json
  | _, [] => []
  | s, op :: rest =>
    let (result, s) := memoryStep s op
    result :: memorySteps s rest

/-- The answer to `memory_store`. -/
def memoryStoreCommand (req : Json) : Json :=
  .object [("steps", .array (memorySteps (MemoryStore.empty (natOr req "max_size_bytes" 1048576))
    (arrayOf req "ops")))]

/-- A directory store with the count of writes so far. -/
structure FileBench where
  store : FileStore
  writes : Nat := 0

namespace FileBench

/-- The time of the next write. -/
def nextTime (b : FileBench) : Nat := 1600000000 + 10 * b.writes

/-- The folder name that a step names: `name`, or a key's text with `suffix`. -/
def nameOf (op : Json) : Except UrlError (List UInt8) :=
  match op.get? "name" with
  | some (.string n) => .ok (Utf8.encode n)
  | _ => (lookupKey op).map fun key => Utf8.encode (key.text ++ stringOr op "suffix" "")

/-- Writes a file into the folder directly, creating the folder when missing. -/
def writeRaw (b : FileBench) (name data : List UInt8) : Json × FileBench :=
  let time := b.nextTime
  let b := { b with writes := b.writes + 1 }
  match b.store.folder.create >>= fun f => f.write name data time with
  | .ok folder => (.string "ok", { b with store := { b.store with folder } })
  | .error e => (cacheError (FileStore.ioError e), b)

/-- The folder's entries by name, with the size of files. -/
def listing (f : Folder) : Json :=
  match f.list with
  | .ok entries =>
    let named := entries.map fun (n, s) => (Utf8.decodeLossy n, s)
    .array ((named.mergeSort fun a b => a.1 ≤ b.1).map fun (n, s) =>
      .array [.string n, match s with
        | .file data _ => nat data.length
        | .dir => .null])
  | .error _ => .array []

/-- One step on a directory store. -/
def step (b : FileBench) (op : Json) : Json × FileBench :=
  let s := b.store
  match stringOr op "op" "" with
  | "store" =>
    match storeArguments op with
    | .ok (key, record) =>
      let time := b.nextTime
      let (result, s) := s.store key record time
      let s := { s with folder := s.folder.setModified (FileStore.fileName key) time }
      (resultOr (fun _ => .string "ok") result, { store := s, writes := b.writes + 1 })
    | .error e => (urlError e, b)
  | "find_all" =>
    match lookupKey op with
    | .ok key => let (result, s) := s.findAll key; (resultOr recordsView result, { b with store := s })
    | .error e => (urlError e, b)
  | "find" =>
    match lookupKey op with
    | .ok key =>
      let (result, s) := s.find key (varyOf (field op "vary"))
      (resultOr (optional recordView) result, { b with store := s })
    | .error e => (urlError e, b)
  | "invalidate_all" => (.string "ok", { b with store := s.invalidateAll })
  | "size_bytes" => let (result, s) := s.sizeBytes; (resultOr nat result, { b with store := s })
  | "write_raw" =>
    match nameOf op with
    | .ok name => b.writeRaw name (bytesOf (field op "data"))
    | .error e => (urlError e, b)
  | "write_raw_hex_name" =>
    b.writeRaw ((Hex.decode? (stringOr op "name_hex" "")).getD []) (bytesOf (field op "data"))
  | "mkdir" =>
    match nameOf op with
    | .ok name =>
      match s.folder.makeDir name with
      | .ok folder => (.string "ok", { b with store := { s with folder } })
      | .error e => (cacheError (FileStore.ioError e), b)
    | .error e => (urlError e, b)
  | "exists" =>
    match nameOf op with
    | .ok name => (.bool (s.folder.contains name), b)
    | .error e => (urlError e, b)
  | "list" => (listing s.folder, b)
  | "block_dir" => (.string "ok", { b with store := { s with folder := .blocked } })
  | other => (error "DriverInput" s!"unknown file_store op {other}", b)

/-- The steps on a directory store. -/
def steps : FileBench → List Json → List Json
  | _, [] => []
  | b, op :: rest =>
    let (result, b) := b.step op
    result :: steps b rest

end FileBench

/-- The answer to `file_store`. -/
def fileStoreCommand (req : Json) : Json :=
  .object [("steps", .array (FileBench.steps { store := { maxSize := natOr req "max_size_bytes" 1048576 } }
    (arrayOf req "ops")))]

end Console

end FeatureFlags
