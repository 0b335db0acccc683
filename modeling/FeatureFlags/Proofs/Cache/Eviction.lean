import Mathlib
import FeatureFlags.Proofs.Cache.FolderSlots
import FeatureFlags.Proofs.Cache.KeyText

/-!
# The byte budget of the folder

After a store, the files of keys in the folder hold at most the budget. The cache files of a
folder (`Folder.keyFiles`) are its regular files whose names are the UTF-8 texts of keys; a
name that is not UTF-8, not a key, or a directory is no cache file, and neither is a file
`<key>.tmp` left by an unfinished write.

Trimming after a write of a key lists the cache files, removing the temporary files on the
way, and when they hold more than the budget it deletes them in order: the other keys' files,
older first (by modification time, then by key), and then the key's own file, only when that
file alone is over the budget. It stops as soon as the total is within the budget. So the
files deleted are the shortest prefix of that order whose removal brings the total within
the budget, and nothing else is touched.

The folder is taken as a directory has it, with no two entries of one name
(`Folder.Distinct`); a name read as a key is the bytes of the key's text
(`Utf8.validate_eq_ok_iff`), so each cache file is found again at its key's name.

Trim forms its order from the files it lists after the write; the store's order of deletion
(`FileStore.deletionOrder`) is stated from the folder before it. Files of distinct keys have
one order of age, so the two agree (`FileStore.evictionOrder_of_perm`).

* `FileStore.scan_run`, `FileStore.evict_run`: what listing and deleting do to the entries;
* `FileStore.trim_run`: trimming leaves `FileStore.trimmedFolder`, the entries with the
  temporary files and a prefix of the order of eviction dropped;
* `FileStore.store_within_budget`: after a store, `FileStore.TrimmedInOrder`: the shortest
  prefix of the order of deletion that brings the total within the budget is deleted, the
  cache files left hold at most the budget, no temporary file is left, and every other name
  holds what it held.
-/

namespace FeatureFlags

/-- Whether a slot is a regular file. -/
def Slot.isFile : Slot → Bool
  | .file _ _ => true
  | .dir => false

namespace FileStore

/-- Whether a name is `<key>.tmp` for a key: the name of a file left by an unfinished write. -/
def isTempName (name : List UInt8) : Bool :=
  match Utf8.validate name with
  | .ok text => (tempKey? text).isSome
  | .error _ => false

/-- The cache file an entry of the folder stands for: a regular file whose name is the text of
    a key. -/
def cacheFile? : List UInt8 × Slot → Option CacheFile
  | (name, .file data time) =>
    match Utf8.validate name with
    | .ok text => (CacheKey.ofHex? text).map fun key => ⟨key, data.length, time⟩
    | .error _ => none
  | (_, .dir) => none

end FileStore

/-- The cache files of a folder, in the order of its entries. -/
def Folder.keyFiles : Folder → List CacheFile
  | .present entries => entries.filterMap FileStore.cacheFile?
  | _ => []

deriving instance DecidableEq for CacheFile

namespace FileStore

/-! ### What a store deletes -/

/-- The order in which a store of `own` deletes the cache files of `before` to keep within
    `maxSize`: the other keys' files, older first, and then `own` itself when it alone is over
    the budget. -/
def deletionOrder (maxSize : Nat) (before : Folder) (own : CacheFile) : List CacheFile :=
  (before.keyFiles.filter (·.key ≠ own.key)).mergeSort olderFirst ++
    if maxSize < own.size then [own] else []

/-- The bytes the cache files hold once `own` is written over its key's file. -/
def sizeAfterWrite (before : Folder) (own : CacheFile) : Nat :=
  totalSize (before.keyFiles.filter (·.key ≠ own.key)) + own.size

/-- What a store of `own` over the folder `before` leaves in `after`, having deleted the first
    `n` files of `deletionOrder`. -/
structure TrimmedInOrder (maxSize : Nat) (before after : Folder) (own : CacheFile) (n : Nat) :
    Prop where
  /-- Deleting the first `n` files of the order brings the total within the budget, -/
  within : sizeAfterWrite before own - totalSize ((deletionOrder maxSize before own).take n) ≤
    maxSize
  /-- and no shorter prefix of the order does. -/
  shortest : ∀ m < n, maxSize <
    sizeAfterWrite before own - totalSize ((deletionOrder maxSize before own).take m)
  /-- The cache files left are the rest of the order, and `own` when it is not in the order. -/
  remaining : after.keyFiles.Perm ((deletionOrder maxSize before own).drop n ++
    if maxSize < own.size then [] else [own])
  /-- The cache files left hold at most the budget. -/
  bounded : totalSize after.keyFiles ≤ maxSize
  /-- A name that is neither temporary, nor `own`'s, nor one of the files deleted keeps what
      it held. -/
  unchanged : ∀ name, isTempName name = false → name ≠ fileName own.key →
    name ∉ ((deletionOrder maxSize before own).take n).map (fileName ·.key) →
    after.slot? name = before.slot? name
  /-- No regular file with a temporary name is left. -/
  no_temp : ∀ name, isTempName name = true → ∀ data time, after.slot? name ≠ some (.file data time)

/-! ### Names of keys and temporary names -/

/-- A key text ends in no `.tmp`: it has no `.`. -/
theorem tempKey?_of_isKeyText {text : String} (h : CacheKey.isKeyText text = true) :
    tempKey? text = none := by
  unfold tempKey?
  rw [if_neg]
  intro hcond
  simp only [Bool.and_eq_true, decide_eq_true_eq] at hcond
  have hdot : '.' ∈ text.toList.drop (text.toList.length - 4) := by
    rw [hcond.2]
    simp
  exact CacheKey.dot_not_mem_of_isKeyText h (List.mem_of_mem_drop hdot)

theorem isTempName_fileName {key : CacheKey} (hkey : CacheKey.isKeyText key.text = true) :
    isTempName (fileName key) = false := by
  simp only [isTempName, fileName, Utf8.validate_encode, tempKey?_of_isKeyText hkey,
    Option.isSome_none]

/-- A key's file is the cache file of the key. -/
theorem cacheFile?_fileName {key : CacheKey} (hkey : CacheKey.isKeyText key.text = true)
    (data : List UInt8) (time : Nat) :
    cacheFile? (fileName key, .file data time) = some ⟨key, data.length, time⟩ := by
  simp only [cacheFile?, fileName, Utf8.validate_encode, CacheKey.ofHex?, hkey, if_true,
    Option.map_some]

/-- A cache file stands at its key's name, and its key is a key text. -/
theorem cacheFile?_eq_some {p : List UInt8 × Slot} {c : CacheFile} (h : cacheFile? p = some c) :
    ∃ data, p = (fileName c.key, .file data c.modified) ∧ c.size = data.length ∧
      CacheKey.isKeyText c.key.text = true := by
  obtain ⟨name, ⟨data, time⟩ | _⟩ := p
  · simp only [cacheFile?] at h
    rcases hv : Utf8.validate name with e | text
    · rw [hv] at h
      cases h
    rw [hv] at h
    obtain ⟨key, hkey, rfl⟩ := Option.map_eq_some_iff.1 h
    obtain ⟨rfl, htext⟩ := CacheKey.ofHex?_eq_some hkey
    exact ⟨data, by rw [fileName, Utf8.encode_of_validate hv], rfl, htext⟩
  · cases h

/-- A temporary name stands for no cache file. -/
theorem cacheFile?_of_isTempName {p : List UInt8 × Slot} (h : isTempName p.1 = true) :
    cacheFile? p = none := by
  cases hc : cacheFile? p with
  | none => rfl
  | some c =>
    obtain ⟨data, rfl, -, hkey⟩ := cacheFile?_eq_some hc
    rw [isTempName_fileName hkey] at h
    cases h

/-! ### Entries of distinct names -/

section Entries

variable {E : List (List UInt8 × Slot)}

/-- In entries of distinct names, an entry is the one found by its name. -/
theorem find?_name_of_mem (hE : (E.map (·.1)).Nodup) {p : List UInt8 × Slot} (hp : p ∈ E) :
    E.find? (·.1 = p.1) = some p := by
  obtain ⟨q, hq⟩ : ∃ q, E.find? (·.1 = p.1) = some q :=
    Option.isSome_iff_exists.1 (List.find?_isSome.2 ⟨p, hp, by simp⟩)
  have hqp : q.1 = p.1 := by simpa using List.find?_some hq
  have hqE := List.mem_of_find?_eq_some hq
  rw [hq, List.inj_on_of_nodup_map hE hqE hp hqp]

/-- Entries of distinct names with one name are one entry. -/
theorem eq_of_mem_of_name (hE : (E.map (·.1)).Nodup) {p q : List UInt8 × Slot} (hp : p ∈ E)
    (hq : q ∈ E) (h : p.1 = q.1) : p = q :=
  List.inj_on_of_nodup_map hE hp hq h

/-- In entries of distinct names, a name has a slot exactly when it is an entry. -/
theorem slot?_eq_some_iff (hE : (E.map (·.1)).Nodup) {name : List UInt8} {slot : Slot} :
    (Folder.present E).slot? name = some slot ↔ (name, slot) ∈ E := by
  constructor
  · intro h
    obtain ⟨q, hq, rfl⟩ := Option.map_eq_some_iff.1 h
    have hqn : q.1 = name := by simpa using List.find?_some hq
    rw [← hqn]
    exact List.mem_of_find?_eq_some hq
  · intro h
    have hfind := find?_name_of_mem hE h
    simp only [Folder.slot?, hfind, Option.map_some]

end Entries

/-- The name `<key>.tmp` of a key text is a temporary name. -/
theorem isTempName_tempName {key : CacheKey} (hkey : CacheKey.isKeyText key.text = true) :
    isTempName (tempName key) = true := by
  simp [isTempName, tempName, Utf8.validate_encode, tempKey?, String.toList_append,
    CacheKey.ofHex?, hkey]

/-! ### The cache files of a folder -/

/-- A cache file of a folder of distinct names is a regular file at its key's name. -/
theorem mem_keyFiles_iff {f : Folder} (hf : f.Distinct) (c : CacheFile) :
    c ∈ f.keyFiles ↔ CacheKey.isKeyText c.key.text = true ∧
      ∃ data, f.slot? (fileName c.key) = some (.file data c.modified) ∧ c.size = data.length := by
  cases f with
  | absent => simp [Folder.keyFiles]
  | blocked => simp [Folder.keyFiles]
  | present E =>
    simp only [Folder.keyFiles, List.mem_filterMap]
    constructor
    · rintro ⟨p, hp, hc⟩
      obtain ⟨data, rfl, hsize, hkey⟩ := cacheFile?_eq_some hc
      exact ⟨hkey, data, (slot?_eq_some_iff hf).2 hp, hsize⟩
    · rintro ⟨hkey, data, hslot, hsize⟩
      refine ⟨_, (slot?_eq_some_iff hf).1 hslot, ?_⟩
      rw [cacheFile?_fileName hkey, ← hsize]

/-- Entries of distinct names hold one cache file per key. -/
theorem nodup_keys_filterMap : ∀ {E : List (List UInt8 × Slot)}, (E.map (·.1)).Nodup →
    ((E.filterMap cacheFile?).map (·.key)).Nodup
  | [], _ => List.nodup_nil
  | p :: rest, hE => by
    rw [List.map_cons, List.nodup_cons] at hE
    cases hc : cacheFile? p with
    | none =>
      rw [List.filterMap_cons_none hc]
      exact nodup_keys_filterMap hE.2
    | some c =>
      rw [List.filterMap_cons_some hc, List.map_cons, List.nodup_cons]
      refine ⟨fun hmem => hE.1 ?_, nodup_keys_filterMap hE.2⟩
      -- Another file of the key would stand at the same name.
      obtain ⟨c', hc', hkey⟩ := List.mem_map.1 hmem
      obtain ⟨q, hq, hqc⟩ := List.mem_filterMap.1 hc'
      obtain ⟨_, rfl, _⟩ := cacheFile?_eq_some hc
      obtain ⟨_, rfl, _⟩ := cacheFile?_eq_some hqc
      simpa [hkey] using List.mem_map_of_mem (f := fun p : List UInt8 × Slot => p.1) hq

theorem nodup_keys_keyFiles {f : Folder} (hf : f.Distinct) : (f.keyFiles.map (·.key)).Nodup := by
  cases f with
  | present E => exact nodup_keys_filterMap hf
  | _ => exact List.nodup_nil

/-- After a write of a key's file, the cache files are the key's new file and the other keys'
    files as they were. -/
theorem keyFiles_perm_of_write {f g : Folder} (hf : f.Distinct) (hg : g.Distinct)
    {key : CacheKey} (hkey : CacheKey.isKeyText key.text = true) {data : List UInt8} {time : Nat}
    (hslot : ∀ n, g.slot? n = if n = fileName key then some (.file data time)
      else if n = tempName key then none else f.slot? n) :
    g.keyFiles.Perm (⟨key, data.length, time⟩ :: f.keyFiles.filter (·.key ≠ key)) := by
  have hnodup :
      (⟨key, data.length, time⟩ :: f.keyFiles.filter (·.key ≠ key) : List CacheFile).Nodup := by
    refine List.nodup_cons.2 ⟨fun hmem => ?_, ((nodup_keys_keyFiles hf).of_map _).filter _⟩
    simp at hmem
  refine (List.perm_ext_iff_of_nodup ((nodup_keys_keyFiles hg).of_map _) hnodup).2 fun c => ?_
  rw [mem_keyFiles_iff hg, List.mem_cons, List.mem_filter, mem_keyFiles_iff hf]
  simp only [hslot]
  by_cases hck : c.key = key
  · -- The key's file is the one just written.
    obtain ⟨k, size, modified⟩ := c
    cases hck
    simp only [ne_eq, not_true_eq_false, decide_false, Bool.false_eq_true,
      and_false, or_false, CacheFile.mk.injEq, true_and, if_pos, hkey, Option.some.injEq,
      Slot.file.injEq]
    constructor
    · rintro ⟨d, ⟨rfl, rfl⟩, rfl⟩
      exact ⟨rfl, rfl⟩
    · rintro ⟨rfl, rfl⟩
      exact ⟨data, ⟨rfl, rfl⟩, rfl⟩
  · have hname : fileName c.key ≠ fileName key := fun h => hck (fileName_injective h)
    constructor
    · rintro ⟨hck', d, hd, hsize⟩
      rw [if_neg hname, if_neg (fileName_ne_tempName_of_isKeyText hck')] at hd
      exact .inr ⟨⟨hck', d, hd, hsize⟩, by simpa using hck⟩
    · rintro (rfl | ⟨⟨hck', d, hd, hsize⟩, -⟩)
      · exact absurd rfl hck
      · rw [if_neg hname, if_neg (fileName_ne_tempName_of_isKeyText hck')]
        exact ⟨hck', d, hd, hsize⟩

/-! ### Listing the folder -/

/-- Whether listing some entries removes an entry: a regular file with a temporary name among
    them. -/
def scanRemoves (scanned : List (List UInt8 × Slot)) (p : List UInt8 × Slot) : Bool :=
  decide (p ∈ scanned) && isTempName p.1 && p.2.isFile

/-- An entry that is no temporary file changes nothing that listing removes. -/
theorem scanRemoves_cons_of_keep {name : List UInt8} {slot : Slot}
    (h : (isTempName name && slot.isFile) = false) (rest : List (List UInt8 × Slot))
    (p : List UInt8 × Slot) : scanRemoves ((name, slot) :: rest) p = scanRemoves rest p := by
  unfold scanRemoves
  by_cases hp : p = (name, slot)
  · subst hp
    simp only [Bool.and_assoc] at h ⊢
    simp [h]
  · simp [List.mem_cons, hp]

/-- Listing a temporary file removes it first, then what listing the rest removes. -/
theorem filter_scanRemoves_cons {E : List (List UInt8 × Slot)} (hE : (E.map (·.1)).Nodup)
    {name data : List UInt8} {time : Nat} (hmem : (name, Slot.file data time) ∈ E)
    (htemp : isTempName name = true) (rest : List (List UInt8 × Slot)) :
    E.filter (fun p => !scanRemoves ((name, .file data time) :: rest) p) =
      (E.filter (·.1 ≠ name)).filter fun p => !scanRemoves rest p := by
  rw [List.filter_filter]
  refine List.filter_congr fun p hp => ?_
  by_cases hname : p.1 = name
  · -- The only entry of that name is the temporary file.
    obtain rfl := eq_of_mem_of_name hE hp hmem hname
    simp [scanRemoves, htemp, Slot.isFile]
  · have hne : p ≠ (name, .file data time) := fun h => hname (by rw [h])
    simp [scanRemoves, hne, hname]

/-- An entry that listing passes over, being neither a cache file nor a temporary file, changes
    neither the files listed nor what listing removes. -/
theorem scan_eq_of_skip {rest E : List (List UInt8 × Slot)} {name : List UInt8} {slot : Slot}
    (hfile : cacheFile? (name, slot) = none) (hkeep : (isTempName name && slot.isFile) = false)
    {r : Except CacheError (List CacheFile) × Folder}
    (hrest : r = (.ok (rest.filterMap cacheFile?),
      .present (E.filter fun p => !scanRemoves rest p))) :
    r = (.ok (((name, slot) :: rest).filterMap cacheFile?),
      .present (E.filter fun p => !scanRemoves ((name, slot) :: rest) p)) := by
  rw [hrest, List.filterMap_cons_none hfile]
  simp only [scanRemoves_cons_of_keep hkeep]

/-- Listing entries of distinct names, all in the folder, gives their cache files and removes
    their temporary files. The induction is on the entries listed; each removal leaves the
    entries not yet listed in the folder. -/
theorem scan_run : ∀ (scanned E : List (List UInt8 × Slot)), (E.map (·.1)).Nodup →
    (scanned.map (·.1)).Nodup → (∀ p ∈ scanned, p ∈ E) →
    (scan scanned).run.run (.present E) =
      (.ok (scanned.filterMap cacheFile?), .present (E.filter fun p => !scanRemoves scanned p))
  | [], E, _, _, _ => by
    simp only [scan, scanRemoves, List.not_mem_nil, decide_false, Bool.false_and,
      Bool.not_false, List.filter_true, List.filterMap_nil]
    rfl
  | (name, slot) :: rest, E, hE, hscanned, hsub => by
    rw [List.map_cons, List.nodup_cons] at hscanned
    have hmem : (name, slot) ∈ E := hsub _ List.mem_cons_self
    have hrest : ∀ p ∈ rest, p ∈ E := fun p hp => hsub p (List.mem_cons_of_mem _ hp)
    unfold scan
    rcases hv : Utf8.validate name with e | text
    · -- A name that is not UTF-8 is passed over.
      have hkeep : (isTempName name && slot.isFile) = false := by simp [isTempName, hv]
      have hfile : cacheFile? (name, slot) = none := by cases slot <;> simp [cacheFile?, hv]
      exact scan_eq_of_skip hfile hkeep (scan_run rest E hE hscanned.2 hrest)
    dsimp only
    have hrest' := scan_run rest E hE hscanned.2 hrest
    rcases ht : tempKey? text with _ | tk
    · -- Not a temporary name: a regular file whose name is a key is listed.
      have hkeep : (isTempName name && slot.isFile) = false := by simp [isTempName, hv, ht]
      rcases ho : CacheKey.ofHex? text with _ | key
      · have hfile : cacheFile? (name, slot) = none := by
          cases slot <;> simp [cacheFile?, hv, ho]
        exact scan_eq_of_skip hfile hkeep hrest'
      cases slot with
      | file data time =>
        have hfile : cacheFile? (name, .file data time) = some ⟨key, data.length, time⟩ := by
          simp [cacheFile?, hv, ho]
        rw [run_bind, hrest', List.filterMap_cons_some hfile]
        simp only [scanRemoves_cons_of_keep hkeep]
        rfl
      | dir => exact scan_eq_of_skip rfl hkeep hrest'
    · -- A temporary name: a regular file is removed, a directory stays.
      have htemp : isTempName name = true := by simp [isTempName, hv, ht]
      rw [List.filterMap_cons_none (cacheFile?_of_isTempName htemp), run_bind, attempt_run]
      cases slot with
      | file data time =>
        rw [Folder.removeFile_of_slot?_file ((slot?_eq_some_iff hE).2 hmem)]
        dsimp only
        -- The entries still to list have other names, so they stay.
        have hstay : ∀ p ∈ rest, p ∈ E.filter (·.1 ≠ name) := by
          intro p hp
          have hname : name ∉ rest.map (·.1) := hscanned.1
          have hne : p.1 ≠ name := fun h =>
            hname (h ▸ (List.mem_map_of_mem hp : p.1 ∈ rest.map (·.1)))
          exact List.mem_filter.2 ⟨hrest p hp, by simpa using hne⟩
        rw [scan_run rest (E.filter (·.1 ≠ name)) (Folder.nodup_filter hE _) hscanned.2 hstay,
          filter_scanRemoves_cons hE hmem htemp]
      | dir =>
        rw [Folder.removeFile_of_slot?_dir ((slot?_eq_some_iff hE).2 hmem)]
        dsimp only
        rw [hrest']
        have hkeep : (isTempName name && Slot.dir.isFile) = false := by simp [Slot.isFile]
        simp only [scanRemoves_cons_of_keep hkeep]

/-- Listing a folder of distinct names gives its cache files and removes its temporary
    files. -/
theorem listFiles_run {E : List (List UInt8 × Slot)} (hE : (E.map (·.1)).Nodup) :
    listFiles.run.run (.present E) =
      (.ok (Folder.present E).keyFiles,
        .present (E.filter fun p => !(isTempName p.1 && p.2.isFile))) := by
  unfold listFiles
  rw [run_get_bind]
  dsimp only [Folder.list]
  rw [scan_run E E hE hE fun _ h => h]
  congr 2
  refine List.filter_congr fun p hp => ?_
  simp [scanRemoves, hp]

/-! ### Sizes -/

@[simp] theorem totalSize_nil : totalSize [] = 0 := rfl

@[simp] theorem totalSize_cons (c : CacheFile) (l : List CacheFile) :
    totalSize (c :: l) = c.size + totalSize l := rfl

@[simp] theorem totalSize_append (l l' : List CacheFile) :
    totalSize (l ++ l') = totalSize l + totalSize l' := by
  simp only [totalSize, List.map_append, natSum_append]

theorem totalSize_perm {l l' : List CacheFile} (h : l.Perm l') : totalSize l = totalSize l' := by
  induction h with
  | nil => rfl
  | cons c _ ih => rw [totalSize_cons, totalSize_cons, ih]
  | swap a b l =>
    simp only [totalSize_cons]
    omega
  | trans _ _ ih₁ ih₂ => rw [ih₁, ih₂]

/-! ### Deleting in order -/

/-- How many files of an order eviction deletes: it stops once the total is within the
    budget. -/
def evictCount (maxSize : Nat) : List CacheFile → Nat → Nat
  | [], _ => 0
  | file :: rest, total =>
    if total ≤ maxSize then 0 else evictCount maxSize rest (total - file.size) + 1

theorem evictCount_of_le {maxSize total : Nat} (h : total ≤ maxSize) (files : List CacheFile) :
    evictCount maxSize files total = 0 := by
  cases files <;> simp [evictCount, h]

theorem run_set (g f : Folder) : (set g : FolderM PUnit).run.run f = (.ok PUnit.unit, g) := rfl

/-- Deleting files in order, each a regular file at its key's name, deletes the first
    `evictCount` of them. The induction is on the order; each deletion leaves the files still
    to delete in the folder, since their keys differ. -/
theorem evict_run (maxSize : Nat) : ∀ (files : List CacheFile) (total : Nat)
    (E : List (List UInt8 × Slot)), (E.map (·.1)).Nodup → (files.map (·.key)).Nodup →
    (∀ c ∈ files, ∃ data time, (fileName c.key, Slot.file data time) ∈ E) →
    (evict maxSize files total).run.run (.present E) =
      (.ok (), .present (E.filter fun p =>
        p.1 ∉ (files.take (evictCount maxSize files total)).map (fileName ·.key)))
  | [], total, E, _, _, _ => by
    simp only [evict, evictCount, List.take_zero, List.map_nil, List.not_mem_nil,
      not_false_eq_true, decide_true, List.filter_true]
    rfl
  | c :: rest, total, E, hE, hkeys, hfiles => by
    by_cases hle : total ≤ maxSize
    · simp only [evict, evictCount_of_le hle, if_pos hle, List.take_zero, List.map_nil,
        List.not_mem_nil, not_false_eq_true, decide_true, List.filter_true]
      rfl
    unfold evict evictCount
    rw [if_neg hle, if_neg hle, run_get_bind]
    rw [List.map_cons, List.nodup_cons] at hkeys
    obtain ⟨data, time, hmem⟩ := hfiles c List.mem_cons_self
    rw [Folder.removeFile_of_slot?_file ((slot?_eq_some_iff hE).2 hmem)]
    dsimp only
    -- The files still to delete have other keys, so other names, and stay.
    have hstay : ∀ c' ∈ rest, ∃ data time,
        (fileName c'.key, Slot.file data time) ∈ E.filter (·.1 ≠ fileName c.key) := by
      intro c' hc'
      obtain ⟨d, t, hd⟩ := hfiles c' (List.mem_cons_of_mem _ hc')
      have hne : fileName c'.key ≠ fileName c.key := fun h =>
        hkeys.1 (fileName_injective h ▸ List.mem_map_of_mem hc')
      exact ⟨d, t, List.mem_filter.2 ⟨hd, by simpa using hne⟩⟩
    rw [run_bind, run_set]
    dsimp only
    rw [evict_run maxSize rest (total - c.size) _ (Folder.nodup_filter hE _) hkeys.2 hstay,
      List.take_succ_cons, List.map_cons, List.filter_filter]
    congr 2
    refine List.filter_congr fun p _ => ?_
    by_cases hp : p.1 = fileName c.key <;> simp [hp]

/-- Eviction deletes files while the total is over the budget: before each file it deletes,
    the total left is over the budget. -/
theorem lt_of_lt_evictCount (maxSize : Nat) : ∀ (files : List CacheFile) (total m : Nat),
    m < evictCount maxSize files total → maxSize < total - totalSize (files.take m)
  | [], _, _, hm => absurd hm (Nat.not_lt_zero _)
  | c :: rest, total, m, hm => by
    unfold evictCount at hm
    split at hm
    · exact absurd hm (Nat.not_lt_zero _)
    rename_i hgt
    cases m with
    | zero => simpa using hgt
    | succ m =>
      have ih := lt_of_lt_evictCount maxSize rest (total - c.size) m (by omega)
      rw [List.take_succ_cons, totalSize_cons, ← Nat.sub_sub]
      exact ih

/-- Eviction stops within the budget, unless it ran out of files. -/
theorem evictCount_within (maxSize : Nat) : ∀ (files : List CacheFile) (total : Nat),
    total - totalSize (files.take (evictCount maxSize files total)) ≤ maxSize ∨
      evictCount maxSize files total = files.length
  | [], _ => .inr rfl
  | c :: rest, total => by
    unfold evictCount
    split
    · rename_i hle
      exact .inl (by simpa using hle)
    · rw [List.take_succ_cons, totalSize_cons, ← Nat.sub_sub, List.length_cons]
      rcases evictCount_within maxSize rest (total - c.size) with h | h
      · exact .inl h
      · exact .inr (by rw [h])

/-! ### The order of age -/

theorem olderFirst_total (a b : CacheFile) : (olderFirst a b || olderFirst b a) = true := by
  simp only [olderFirst, Bool.or_eq_true, Bool.and_eq_true, decide_eq_true_eq]
  rcases Nat.lt_trichotomy a.modified b.modified with h | h | h
  · exact .inl (.inl h)
  · rcases String.le_total a.key.text b.key.text with ht | ht
    · exact .inl (.inr ⟨h, ht⟩)
    · exact .inr (.inr ⟨h.symm, ht⟩)
  · exact .inr (.inl h)

theorem olderFirst_trans {a b c : CacheFile} (hab : olderFirst a b = true)
    (hbc : olderFirst b c = true) : olderFirst a c = true := by
  simp only [olderFirst, Bool.or_eq_true, Bool.and_eq_true, decide_eq_true_eq] at *
  rcases hab with hab | ⟨hab, hab'⟩ <;> rcases hbc with hbc | ⟨hbc, hbc'⟩
  · exact .inl (by omega)
  · exact .inl (by omega)
  · exact .inl (by omega)
  · exact .inr ⟨hab.trans hbc, le_trans hab' hbc'⟩

/-- Files each older-or-equal than the other have one key. -/
theorem key_eq_of_olderFirst {a b : CacheFile} (hab : olderFirst a b = true)
    (hba : olderFirst b a = true) : a.key = b.key := by
  simp only [olderFirst, Bool.or_eq_true, Bool.and_eq_true, decide_eq_true_eq] at hab hba
  obtain ⟨⟨ta⟩, _, _⟩ := a
  obtain ⟨⟨tb⟩, _, _⟩ := b
  rcases hab with hab | ⟨hab, hab'⟩ <;> rcases hba with hba | ⟨hba, hba'⟩
  · omega
  · omega
  · omega
  · exact congrArg CacheKey.mk (String.le_antisymm hab' hba')

/-- Files of distinct keys have one order of age: a list of them in that order is what
    sorting any arrangement of them gives. -/
theorem mergeSort_eq_of_perm {l l' : List CacheFile} (hkeys : (l.map (·.key)).Nodup)
    (hperm : l.Perm l') (hsorted : l'.Pairwise fun a b => olderFirst a b = true) :
    l.mergeSort olderFirst = l' := by
  have hsort : (l.mergeSort olderFirst).Perm l' := (List.mergeSort_perm l olderFirst).trans hperm
  refine hsort.eq_of_pairwise (fun a b ha hb hab hba => ?_)
    (List.pairwise_mergeSort (fun a b c => @olderFirst_trans a b c) olderFirst_total l) hsorted
  have ha' : a ∈ l := (List.mergeSort_perm l olderFirst).mem_iff.1 ha
  have hb' : b ∈ l := hperm.mem_iff.2 hb
  exact List.inj_on_of_nodup_map hkeys ha' hb' (key_eq_of_olderFirst hab hba)

/-- Deleting the first files of a list of distinct files leaves the rest of it. -/
theorem filter_not_mem_take {α : Type} [DecidableEq α] : ∀ {l : List α}, l.Nodup → ∀ n,
    l.filter (· ∉ l.take n) = l.drop n
  | [], _, _ => by simp
  | a :: l, _, 0 => by simp
  | a :: l, h, n + 1 => by
    rw [List.nodup_cons] at h
    rw [List.take_succ_cons, List.drop_succ_cons, List.filter_cons_of_neg (by simp),
      ← filter_not_mem_take h.2 n]
    refine List.filter_congr fun b hb => ?_
    have hne : b ≠ a := fun hba => h.1 (hba ▸ hb)
    simp [hne]

/-! ### The order of deletion, from the listing -/

/-- The order trim deletes in, formed from the files it lists: the other keys' files, older
    first, and then the key's own file when it alone is over the budget. -/
def evictionOrder (maxSize : Nat) (key : CacheKey) (files : List CacheFile) : List CacheFile :=
  (files.mergeSort olderFirst).filter (·.key ≠ key) ++
    (files.mergeSort olderFirst).filter fun f => f.key = key && f.size > maxSize

theorem mem_of_mem_evictionOrder {maxSize : Nat} {key : CacheKey} {files : List CacheFile}
    {c : CacheFile} (h : c ∈ evictionOrder maxSize key files) : c ∈ files := by
  have hsorted : c ∈ files.mergeSort olderFirst := by
    rcases List.mem_append.1 h with h | h <;> exact (List.mem_filter.1 h).1
  exact (List.mergeSort_perm files olderFirst).mem_iff.1 hsorted

theorem nodup_keys_evictionOrder {maxSize : Nat} {key : CacheKey} {files : List CacheFile}
    (h : (files.map (·.key)).Nodup) : ((evictionOrder maxSize key files).map (·.key)).Nodup := by
  have hsorted : ((files.mergeSort olderFirst).map (·.key)).Nodup :=
    ((List.mergeSort_perm files olderFirst).map _).nodup_iff.2 h
  rw [evictionOrder, List.map_append, List.nodup_append]
  refine ⟨hsorted.sublist (List.filter_sublist.map _), hsorted.sublist (List.filter_sublist.map _),
    fun a ha b hb hab => ?_⟩
  -- The two parts hold other keys and the key itself.
  obtain ⟨c, hc, rfl⟩ := List.mem_map.1 ha
  obtain ⟨d, hd, rfl⟩ := List.mem_map.1 hb
  simp only [List.mem_filter, decide_eq_true_eq, Bool.and_eq_true] at hc hd
  exact hc.2 (hab.trans hd.2.1)

section Written

variable {f : Folder} {own : CacheFile} {L : List CacheFile}

/-- The order trim forms from the listing after a write is the order of deletion of the
    store. -/
theorem evictionOrder_of_perm (hL : L.Perm (own :: f.keyFiles.filter (·.key ≠ own.key)))
    (hkeys : (L.map (·.key)).Nodup) (maxSize : Nat) :
    evictionOrder maxSize own.key L = deletionOrder maxSize f own := by
  have hsorted : (L.mergeSort olderFirst).Perm (own :: f.keyFiles.filter (·.key ≠ own.key)) :=
    (List.mergeSort_perm L olderFirst).trans hL
  have hpair := List.pairwise_mergeSort (fun a b c => @olderFirst_trans a b c) olderFirst_total L
  have hkeys' := (hL.map (·.key)).nodup_iff.1 hkeys
  rw [List.map_cons, List.nodup_cons] at hkeys'
  -- The other keys' files, sorted.
  have hothers : (L.mergeSort olderFirst).filter (·.key ≠ own.key) =
      (f.keyFiles.filter (·.key ≠ own.key)).mergeSort olderFirst := by
    refine (mergeSort_eq_of_perm hkeys'.2 ?_ (hpair.filter _)).symm
    have hperm := (hsorted.filter fun c => decide (c.key ≠ own.key)).symm
    rw [List.filter_cons_of_neg (by simp), List.filter_filter] at hperm
    simpa only [Bool.and_self] using hperm
  -- The key's own file, when it alone is over the budget.
  have hown : (L.mergeSort olderFirst).filter (fun c => c.key = own.key && c.size > maxSize) =
      if maxSize < own.size then [own] else [] := by
    have hnone : (f.keyFiles.filter (·.key ≠ own.key)).filter
        (fun c => decide (c.key = own.key) && decide (c.size > maxSize)) = [] := by
      refine List.filter_eq_nil_iff.2 fun c hc => ?_
      simp only [List.mem_filter, decide_eq_true_eq] at hc
      simp [hc.2]
    have hperm := hsorted.filter fun c => decide (c.key = own.key) && decide (c.size > maxSize)
    rw [List.filter_cons, hnone] at hperm
    by_cases hsize : maxSize < own.size
    · simpa [hsize] using hperm
    · simpa [hsize] using hperm
  rw [evictionOrder, deletionOrder, hothers, hown]

/-- After a write, the listing is the order of deletion and the key's own file when it is not
    in that order. -/
theorem perm_deletionOrder (hL : L.Perm (own :: f.keyFiles.filter (·.key ≠ own.key)))
    (maxSize : Nat) :
    L.Perm (deletionOrder maxSize f own ++ if maxSize < own.size then [] else [own]) := by
  have hsort : (own :: f.keyFiles.filter (·.key ≠ own.key)).Perm
      ((f.keyFiles.filter (·.key ≠ own.key)).mergeSort olderFirst ++ [own]) :=
    (List.perm_append_singleton own _).symm.trans
      ((List.mergeSort_perm _ olderFirst).symm.append_right [own])
  unfold deletionOrder
  by_cases hsize : maxSize < own.size
  · simpa only [if_pos hsize, List.append_nil] using hL.trans hsort
  · simpa only [if_neg hsize, List.append_nil] using hL.trans hsort

theorem totalSize_of_perm_write (hL : L.Perm (own :: f.keyFiles.filter (·.key ≠ own.key))) :
    totalSize L = sizeAfterWrite f own := by
  rw [totalSize_perm hL, totalSize_cons, sizeAfterWrite, Nat.add_comm]

end Written

/-! ### Trimming -/

/-- The folder trimming leaves of entries `E`: no regular file with a temporary name, and none
    of the first `n` files of `order`. -/
def trimmedFolder (E : List (List UInt8 × Slot)) (order : List CacheFile) (n : Nat) : Folder :=
  .present ((E.filter fun p => !(isTempName p.1 && p.2.isFile)).filter fun p =>
    p.1 ∉ (order.take n).map (fileName ·.key))

/-- Trimming a folder of distinct names after a write of `key`: the temporary files go, and
    then the first `evictCount` files of the order of eviction. -/
theorem trim_run {E : List (List UInt8 × Slot)} (hE : (E.map (·.1)).Nodup) (maxSize : Nat)
    (key : CacheKey) :
    (trim maxSize key).run.run (.present E) =
      (.ok (), trimmedFolder E (evictionOrder maxSize key (Folder.present E).keyFiles)
        (evictCount maxSize (evictionOrder maxSize key (Folder.present E).keyFiles)
          (totalSize (Folder.present E).keyFiles))) := by
  -- Each file of the order is a regular file at its key's name, which is no temporary name.
  have hpresent : ∀ c ∈ evictionOrder maxSize key (Folder.present E).keyFiles, ∃ data time,
      (fileName c.key, Slot.file data time) ∈
        E.filter fun p => !(isTempName p.1 && p.2.isFile) := by
    intro c hc
    obtain ⟨p, hp, hpc⟩ := List.mem_filterMap.1 (mem_of_mem_evictionOrder hc)
    obtain ⟨data, rfl, -, hkey⟩ := cacheFile?_eq_some hpc
    exact ⟨data, c.modified, List.mem_filter.2 ⟨hp, by simp [isTempName_fileName hkey]⟩⟩
  unfold trim
  rw [run_bind, listFiles_run hE]
  dsimp only
  split
  · rename_i hle
    rw [evictCount_of_le hle]
    simp only [trimmedFolder, List.take_zero, List.map_nil, List.not_mem_nil, not_false_eq_true,
      decide_true, List.filter_true]
    rfl
  · rw [← evictionOrder, evict_run maxSize (evictionOrder maxSize key (Folder.present E).keyFiles)
      _ _ (Folder.nodup_filter hE _) (nodup_keys_evictionOrder (nodup_keys_filterMap hE)) hpresent]
    rfl

/-- Dropping entries drops their cache files, when what decides is a function of the cache
    file. -/
theorem keyFiles_filter {E : List (List UInt8 × Slot)} (q : List UInt8 × Slot → Bool)
    (r : CacheFile → Bool) (h : ∀ p ∈ E, ∀ c, cacheFile? p = some c → q p = r c) :
    (Folder.present (E.filter q)).keyFiles = (Folder.present E).keyFiles.filter r := by
  simp only [Folder.keyFiles]
  rw [List.filterMap_filter, List.filter_filterMap]
  refine List.filterMap_congr fun p hp => ?_
  cases hc : cacheFile? p with
  | none => simp
  | some c => simp [h p hp c hc, Option.filter_some]

/-! ### What trimming leaves -/

section Trimmed

variable {E : List (List UInt8 × Slot)} {order : List CacheFile}

/-- Trimming drops the cache files deleted, and no other. -/
theorem keyFiles_trimmedFolder (hE : (E.map (·.1)).Nodup)
    (horder : ∀ c ∈ order, c ∈ (Folder.present E).keyFiles) (n : Nat) :
    (trimmedFolder E order n).keyFiles = (Folder.present E).keyFiles.filter (· ∉ order.take n) := by
  have hkeep : (Folder.present (E.filter fun p => !(isTempName p.1 && p.2.isFile))).keyFiles =
      (Folder.present E).keyFiles := by
    rw [keyFiles_filter _ (fun _ => true), List.filter_true]
    intro p _ c hc
    -- A cache file has no temporary name.
    obtain ⟨data, rfl, -, hkey⟩ := cacheFile?_eq_some hc
    simp [isTempName_fileName hkey]
  rw [trimmedFolder, keyFiles_filter _ (· ∉ order.take n), hkeep]
  intro p hp c hc
  have hcL : c ∈ (Folder.present E).keyFiles := by
    rw [← hkeep]
    exact List.mem_filterMap.2 ⟨p, hp, hc⟩
  obtain ⟨data, rfl, -, -⟩ := cacheFile?_eq_some hc
  -- A deleted name is the name of the one file of its key.
  have hiff : fileName c.key ∈ (order.take n).map (fileName ·.key) ↔ c ∈ order.take n := by
    constructor
    · intro hmem
      obtain ⟨c', hc', hname⟩ := List.mem_map.1 hmem
      have hc'L := horder c' (List.mem_of_mem_take hc')
      rwa [List.inj_on_of_nodup_map (nodup_keys_keyFiles (f := .present E) hE) hc'L hcL
        (fileName_injective hname)] at hc'
    · exact fun h => List.mem_map_of_mem (f := fun c : CacheFile => fileName c.key) h
  simp [hiff, -List.map_take]

/-- Trimming leaves every name that is neither temporary nor deleted as it was. -/
theorem slot?_trimmedFolder (hE : (E.map (·.1)).Nodup) {n : Nat} {name : List UInt8}
    (htemp : isTempName name = false) (hname : name ∉ (order.take n).map (fileName ·.key)) :
    (trimmedFolder E order n).slot? name = (Folder.present E).slot? name := by
  refine Option.ext fun slot => ?_
  rw [trimmedFolder, slot?_eq_some_iff (Folder.nodup_filter (Folder.nodup_filter hE _) _),
    slot?_eq_some_iff hE]
  simp only [List.mem_filter, htemp, Bool.false_and, Bool.not_false, hname, not_false_eq_true,
    decide_true, and_true]

/-- Trimming leaves no regular file with a temporary name. -/
theorem slot?_trimmedFolder_ne_file (hE : (E.map (·.1)).Nodup) (n : Nat) {name : List UInt8}
    (htemp : isTempName name = true) (data : List UInt8) (time : Nat) :
    (trimmedFolder E order n).slot? name ≠ some (.file data time) := by
  rw [Ne, trimmedFolder, slot?_eq_some_iff (Folder.nodup_filter (Folder.nodup_filter hE _) _)]
  simp [htemp, Slot.isFile]

end Trimmed

theorem totalSize_kept_le (maxSize : Nat) (own : CacheFile) :
    totalSize (if maxSize < own.size then [] else [own]) ≤ maxSize := by
  split
  · simp
  · rename_i h
    simp only [totalSize_cons, totalSize_nil]
    omega

/-- Trimming after a write of `own` over the folder `f` deletes the shortest prefix of the
    order of deletion that brings the cache files within the budget, removes the temporary
    files, and touches nothing else. -/
theorem trimmedInOrder_evictCount {f : Folder} {E : List (List UInt8 × Slot)}
    (hE : (E.map (·.1)).Nodup) {own : CacheFile}
    (hL : (Folder.present E).keyFiles.Perm (own :: f.keyFiles.filter (·.key ≠ own.key)))
    (hkey : CacheKey.isKeyText own.key.text = true)
    (hframe : ∀ name, name ≠ fileName own.key → name ≠ tempName own.key →
      (Folder.present E).slot? name = f.slot? name) (maxSize : Nat) :
    TrimmedInOrder maxSize f
      (trimmedFolder E (deletionOrder maxSize f own)
        (evictCount maxSize (deletionOrder maxSize f own) (sizeAfterWrite f own))) own
      (evictCount maxSize (deletionOrder maxSize f own) (sizeAfterWrite f own)) := by
  have hsplit := perm_deletionOrder hL maxSize
  have hsum : sizeAfterWrite f own = totalSize (deletionOrder maxSize f own) +
      totalSize (if maxSize < own.size then [] else [own]) := by
    rw [← totalSize_of_perm_write hL, totalSize_perm hsplit, totalSize_append]
  have hkept := totalSize_kept_le maxSize own
  set order := deletionOrder maxSize f own
  set kept : List CacheFile := if maxSize < own.size then [] else [own]
  set n := evictCount maxSize order (sizeAfterWrite f own)
  have hnodup := (hsplit.nodup_iff.1 ((nodup_keys_keyFiles (f := .present E) hE).of_map _))
  have hdisjoint := (List.nodup_append.1 hnodup).2.2
  -- The files deleted are a prefix of the order; what is left of it is its rest.
  have htake := congrArg totalSize (List.take_append_drop n order)
  rw [totalSize_append] at htake
  have hwithin : sizeAfterWrite f own - totalSize (order.take n) ≤ maxSize := by
    rcases evictCount_within maxSize order (sizeAfterWrite f own) with h | h
    · exact h
    · rw [show n = order.length from h, List.take_length]
      omega
  have hleft : (trimmedFolder E order n).keyFiles.Perm (order.drop n ++ kept) := by
    rw [keyFiles_trimmedFolder hE fun c hc => hsplit.mem_iff.2 (List.mem_append_left _ hc)]
    refine (hsplit.filter _).trans ?_
    rw [List.filter_append, filter_not_mem_take (List.nodup_append.1 hnodup).1,
      List.filter_eq_self.2 fun c hc => ?_]
    -- The key's own file, when kept, is not in the order.
    have hout : c ∉ order := fun hin => hdisjoint c hin c hc rfl
    simpa using fun hin => hout (List.mem_of_mem_take hin)
  refine ⟨hwithin, lt_of_lt_evictCount maxSize _ _, hleft, ?_, ?_, ?_⟩
  · rw [totalSize_perm hleft, totalSize_append]
    omega
  · intro name htemp hown hname
    have htempName : name ≠ tempName own.key := fun h => by
      rw [h, isTempName_tempName hkey] at htemp
      cases htemp
    rw [slot?_trimmedFolder hE htemp hname, hframe name hown htempName]
  · exact fun name htemp => slot?_trimmedFolder_ne_file hE _ htemp

/-- Trimming after a write of a key's file keeps the folder within the budget, deleting files in
    the order of deletion of the store. -/
theorem trim_inOrder {f g : Folder} (hf : f.Distinct) (hg : g.Distinct) {key : CacheKey}
    (hkey : CacheKey.isKeyText key.text = true) {data : List UInt8} {time : Nat}
    (hslot : ∀ n, g.slot? n = if n = fileName key then some (.file data time)
      else if n = tempName key then none else f.slot? n) (maxSize : Nat) :
    ∃ n, TrimmedInOrder maxSize f ((trim maxSize key).run.run g).2 ⟨key, data.length, time⟩ n := by
  -- The folder written is present: it holds the key's file.
  obtain ⟨E, rfl⟩ : ∃ E, g = .present E := by
    have hown := hslot (fileName key)
    rw [if_pos rfl] at hown
    cases g with
    | present E => exact ⟨E, rfl⟩
    | absent => simp at hown
    | blocked => simp at hown
  have hL := keyFiles_perm_of_write hf hg hkey hslot
  have hframe : ∀ name, name ≠ fileName key → name ≠ tempName key →
      (Folder.present E).slot? name = f.slot? name := fun name h₁ h₂ => by
    rw [hslot, if_neg h₁, if_neg h₂]
  rw [trim_run hg maxSize key, evictionOrder_of_perm hL (nodup_keys_keyFiles hg) maxSize,
    totalSize_of_perm_write hL]
  exact ⟨_, trimmedInOrder_evictCount hg hL hkey hframe maxSize⟩

/-- A store keeps the cache files within the budget: it deletes the shortest prefix of the other
    keys' files, older first, and then of the key's own file when that alone is over the budget,
    that brings the total within the budget; it removes the temporary files, and leaves every
    other name as it was. -/
theorem store_within_budget {s : FileStore} (hs : s.folder.Distinct) {key : CacheKey}
    (hkey : CacheKey.isKeyText key.text = true) {record : CacheRecord} {time : Nat}
    (hok : (s.store key record time).1 = .ok ()) :
    ∃ data, Codec.encode ((⟨recordsIn s.folder key⟩ : CacheEntry).upsert record) = .ok data ∧
      ∃ n, TrimmedInOrder s.maxSize s.folder (s.store key record time).2.folder
        ⟨key, data.length, time⟩ n := by
  obtain ⟨data, hencode, written, -, hdistinct, hslot, hafter⟩ := store_slot? hok
  rw [hafter]
  exact ⟨data, hencode, trim_inOrder hs (hdistinct hs) hkey hslot s.maxSize⟩

/-- A key text. -/
def budgetKey : CacheKey := ⟨"0123456789abcdef0123456789abcdef"⟩

/-- A record of `budgetKey`, 101 bytes once encoded. -/
def budgetRecord : CacheRecord where
  key := budgetKey
  url := "http://mock/"
  status := 200
  headers := []
  body := [123, 125]
  requestTime := ⟨1500000⟩
  responseTime := ⟨2500000⟩
  expiresAt := ⟨60002500000⟩
  vary := {}

/-- A store of budget 111 whose folder holds two cache files of 10 bytes of other keys, written
    at times 1 and 2, a temporary file left by a write, and a file that is no cache file. -/
def budgetStore : FileStore where
  folder := .present
    [(fileName ⟨"aaaaaaaaaaaaaaaaaaaaaaaaaaaaaaaa"⟩, .file (List.replicate 10 0) 1),
     (fileName ⟨"bbbbbbbbbbbbbbbbbbbbbbbbbbbbbbbb"⟩, .file (List.replicate 10 0) 2),
     (tempName ⟨"bbbbbbbbbbbbbbbbbbbbbbbbbbbbbbbb"⟩, .file [1] 0),
     (Utf8.encode "notes", .file [1, 2, 3] 0)]
  maxSize := 111

/-- A store of `budgetRecord` into `budgetStore` succeeds, and so keeps the budget. -/
theorem store_within_budget_oldest :
    budgetStore.folder.Distinct ∧ CacheKey.isKeyText budgetKey.text = true ∧
      (budgetStore.store budgetKey budgetRecord 3).1 = .ok () ∧
      ∃ data, Codec.encode ((⟨recordsIn budgetStore.folder budgetKey⟩ : CacheEntry).upsert
          budgetRecord) = .ok data ∧
        ∃ n, TrimmedInOrder budgetStore.maxSize budgetStore.folder
          (budgetStore.store budgetKey budgetRecord 3).2.folder ⟨budgetKey, data.length, 3⟩ n := by
  have hs : budgetStore.folder.Distinct := by decide
  have hkey : CacheKey.isKeyText budgetKey.text = true := by decide
  have hok : (budgetStore.store budgetKey budgetRecord 3).1 = .ok () :=
    store_fst_of_write rfl rfl rfl
  exact ⟨hs, hkey, hok, store_within_budget hs hkey hok⟩

end FileStore

end FeatureFlags
