import FeatureFlags.Proofs.Cache.Holding
import FeatureFlags.Proofs.Text.Utf8

/-!
# What the folder holds, name by name

`Folder.slot?` is what stands at a name: nothing when the folder is missing or blocked.
Each folder operation is described once by its effect on the slots, so that later proofs
never unfold it: a write sets one name, a rename moves a slot from one name to another, a
removal empties one name, and a read sees only the slot of its name.

`Folder.Shrinks f g` says that `g` is `f` with some entries removed: each name keeps its
slot or is emptied, and `g` is blocked only if `f` is. Listing the folder and trimming it
only remove entries (`FileStore.trim_onlyRemoves`), whatever the folder holds. A folder as
a directory has it holds no two entries of one name (`Folder.Distinct`), and every
operation keeps it so.

* `Folder.read_eq_of_slot?`: folders that are not blocked read alike where their slots
  agree;
* `FileStore.writeEntry_slot?`: a write through the temporary file leaves the encoded
  entry at the key's name and nothing at the temporary name;
* `FileStore.store_slot?`: a store writes the key's file over what the folder held, and then
  trims; so after it each name holds what it held before, the key's new file, or nothing
  (`FileStore.store_shrinks`); and a store succeeds once its write does
  (`FileStore.store_fst_of_write`).
-/

namespace FeatureFlags

namespace Folder

/-- What stands at a name; nothing when the folder is missing or blocked. -/
def slot? : Folder → List UInt8 → Option Slot
  | .present entries, name => (entries.find? (·.1 = name)).map (·.2)
  | _, _ => none

@[simp] theorem slot?_absent (name : List UInt8) : absent.slot? name = none := rfl

@[simp] theorem slot?_blocked (name : List UInt8) : blocked.slot? name = none := rfl

theorem lookup_present (entries : List (List UInt8 × Slot)) (name : List UInt8) :
    (present entries).lookup name = .ok ((present entries).slot? name) := rfl

/-- A folder that is not blocked reads a name by what stands there. -/
theorem read_eq {f : Folder} (hf : f ≠ .blocked) (name : List UInt8) :
    f.read name =
      match f.slot? name with
      | some (.file data _) => .ok data
      | some .dir => .error .isADirectory
      | none => .error .notFound := by
  cases f with
  | absent => rfl
  | blocked => exact absurd rfl hf
  | present entries => rfl

theorem read_eq_of_slot? {f g : Folder} (hf : f ≠ .blocked) (hg : g ≠ .blocked)
    {name : List UInt8} (h : f.slot? name = g.slot? name) : f.read name = g.read name := by
  rw [read_eq hf, read_eq hg, h]

/-- Setting a name changes what stands at that name only. -/
theorem slot?_put (entries : List (List UInt8 × Slot)) (name : List UInt8) (slot : Slot)
    (n : List UInt8) :
    (present (put entries name slot)).slot? n =
      if n = name then some slot else (present entries).slot? n := by
  simp only [slot?, put]
  split
  · -- The name is there: every entry of that name is replaced.
    rename_i hany
    have hfind : entries.find? ((fun p => decide (p.1 = n)) ∘
        fun (x : List UInt8 × Slot) => if x.1 = name then (x.1, slot) else x) =
        entries.find? (·.1 = n) := by
      congr 1
      funext x
      by_cases hx : x.1 = name <;> simp [hx]
    rw [List.find?_map, hfind]
    by_cases hn : n = name
    · subst hn
      obtain ⟨p, hp, hpn⟩ := List.any_eq_true.1 hany
      obtain ⟨q, hq⟩ : ∃ q, entries.find? (fun x => decide (x.1 = n)) = some q :=
        Option.isSome_iff_exists.1 (List.find?_isSome.2 ⟨p, hp, hpn⟩)
      have hqn : q.1 = n := by simpa using List.find?_some hq
      simp [hq, hqn]
    · rw [if_neg hn]
      cases hq : entries.find? (·.1 = n) with
      | none => rfl
      | some q =>
        have hqn : q.1 = n := by simpa using List.find?_some hq
        simp [hqn, hn]
  · -- The name is new: it goes last.
    rename_i hany
    rw [List.find?_append]
    by_cases hn : n = name
    · subst hn
      rw [List.find?_eq_none.2 fun p hp hpn => hany (List.any_eq_true.2 ⟨p, hp, hpn⟩)]
      simp
    · rw [if_neg hn]
      cases entries.find? (·.1 = n) <;> simp [Ne.symm hn]

/-- Dropping the entries of a name empties that name only. -/
theorem slot?_filter_ne (entries : List (List UInt8 × Slot)) (name n : List UInt8) :
    (present (entries.filter (·.1 ≠ name))).slot? n =
      if n = name then none else (present entries).slot? n := by
  simp only [slot?]
  by_cases hn : n = name
  · subst hn
    rw [List.find?_eq_none.2 fun p hp => by simp_all, if_pos rfl]
    rfl
  · rw [if_neg hn, List.find?_filter_of_imp _ (by simp_all)]

/-! ### Each operation, by its effect on the slots -/

theorem removeFile_slot? {f g : Folder} {name : List UInt8} (h : f.removeFile name = .ok g)
    (n : List UInt8) : g.slot? n = if n = name then none else f.slot? n := by
  obtain ⟨entries, rfl, rfl⟩ := removeFile_eq h
  exact slot?_filter_ne entries name n

/-- A regular file is removed by its name. -/
theorem removeFile_of_slot?_file {entries : List (List UInt8 × Slot)} {name data : List UInt8}
    {time : Nat} (h : (present entries).slot? name = some (.file data time)) :
    (present entries).removeFile name = .ok (.present (entries.filter (·.1 ≠ name))) := by
  simp only [removeFile, lookup_present, list, h, bind, Except.bind, pure, Except.pure]

/-- A directory is not removed as a file. -/
theorem removeFile_of_slot?_dir {entries : List (List UInt8 × Slot)} {name : List UInt8}
    (h : (present entries).slot? name = some .dir) :
    (present entries).removeFile name = .error .isADirectory := by
  simp only [removeFile, lookup_present, list, h, bind, Except.bind]
  rfl

theorem write_eq {f g : Folder} {name data : List UInt8} {time : Nat}
    (h : f.write name data time = .ok g) :
    ∃ entries, f = present entries ∧ g = present (put entries name (.file data time)) := by
  cases f with
  | absent => cases h
  | blocked => cases h
  | present entries =>
    simp only [write, lookup, list, bind, Except.bind, pure, Except.pure] at h
    split at h
    · cases h
    · exact ⟨entries, rfl, (Except.ok.inj h).symm⟩

theorem write_slot? {f g : Folder} {name data : List UInt8} {time : Nat}
    (h : f.write name data time = .ok g) (n : List UInt8) :
    g.slot? n = if n = name then some (.file data time) else f.slot? n := by
  obtain ⟨entries, rfl, rfl⟩ := write_eq h
  exact slot?_put entries name _ n

theorem rename_eq {f g : Folder} {source target : List UInt8} (h : f.rename source target = .ok g) :
    ∃ entries slot, f = present entries ∧ (present entries).slot? source = some slot ∧
      g = present (put (entries.filter (·.1 ≠ source)) target slot) := by
  cases f with
  | absent => cases h
  | blocked => cases h
  | present entries =>
    simp only [rename, lookup_present, list, bind, Except.bind, pure, Except.pure] at h
    split at h
    · cases h
    · cases h
    · cases h
    · rename_i slot _ hsource _
      exact ⟨entries, slot, rfl, hsource, (Except.ok.inj h).symm⟩

/-- A rename moves the slot at the source to the target and empties the source. -/
theorem rename_slot? {f g : Folder} {source target : List UInt8}
    (h : f.rename source target = .ok g) (n : List UInt8) :
    g.slot? n = if n = target then f.slot? source else if n = source then none else f.slot? n := by
  obtain ⟨entries, slot, rfl, hsource, rfl⟩ := rename_eq h
  rw [slot?_put, slot?_filter_ne, hsource]

theorem create_eq {f g : Folder} (h : f.create = .ok g) :
    g ≠ .blocked ∧ ∀ n, g.slot? n = f.slot? n := by
  cases f with
  | absent =>
    cases h
    exact ⟨nofun, fun _ => rfl⟩
  | blocked => cases h
  | present entries =>
    cases h
    exact ⟨nofun, fun _ => rfl⟩

/-! ### Removing entries -/

/-- `g` is `f` with some entries removed: every name keeps its slot or is emptied, and `g`
    is blocked only if `f` is. -/
structure Shrinks (f g : Folder) : Prop where
  slot : ∀ n, g.slot? n = f.slot? n ∨ g.slot? n = none
  blocked : g = .blocked → f = .blocked

theorem Shrinks.refl (f : Folder) : Shrinks f f := ⟨fun _ => .inl rfl, id⟩

theorem Shrinks.trans {f g h : Folder} (h₁ : Shrinks f g) (h₂ : Shrinks g h) : Shrinks f h where
  slot n := by
    rcases h₂.slot n with hn | hn
    · rw [hn]
      exact h₁.slot n
    · exact .inr hn
  blocked hb := h₁.blocked (h₂.blocked hb)

theorem removeFile_shrinks {f g : Folder} {name : List UInt8} (h : f.removeFile name = .ok g) :
    Shrinks f g where
  slot n := by
    rw [removeFile_slot? h]
    split
    · exact .inr rfl
    · exact .inl rfl
  blocked hb := by
    obtain ⟨_, _, rfl⟩ := removeFile_eq h
    cases hb

/-! ### Folders of distinct names -/

/-- A folder as a directory has it: no two entries of one name. -/
def Distinct : Folder → Prop
  | .present entries => (entries.map (·.1)).Nodup
  | _ => True

instance : DecidablePred Distinct
  | .present entries => inferInstanceAs (Decidable (entries.map (·.1)).Nodup)
  | .absent => isTrue trivial
  | .blocked => isTrue trivial

/-- Setting a name keeps the names distinct. -/
theorem nodup_put {entries : List (List UInt8 × Slot)} (h : (entries.map (·.1)).Nodup)
    (name : List UInt8) (slot : Slot) : ((put entries name slot).map (·.1)).Nodup := by
  unfold put
  split
  · -- Replacing keeps every name where it was.
    rw [List.map_map]
    refine (List.map_congr_left fun p _ => ?_).symm ▸ h
    by_cases hp : p.1 = name <;> simp [hp]
  · rename_i hany
    rw [List.map_append, List.nodup_append]
    refine ⟨h, by simp, fun a ha b hb hab => hany ?_⟩
    obtain ⟨p, hp, rfl⟩ := List.mem_map.1 ha
    exact List.any_eq_true.2 ⟨p, hp, by simp_all⟩

theorem nodup_filter {entries : List (List UInt8 × Slot)} (h : (entries.map (·.1)).Nodup)
    (q : List UInt8 × Slot → Bool) : ((entries.filter q).map (·.1)).Nodup :=
  h.sublist (List.filter_sublist.map _)

theorem write_distinct {f g : Folder} {name data : List UInt8} {time : Nat}
    (h : f.write name data time = .ok g) (hf : f.Distinct) : g.Distinct := by
  obtain ⟨entries, rfl, rfl⟩ := write_eq h
  exact nodup_put hf name _

theorem rename_distinct {f g : Folder} {source target : List UInt8}
    (h : f.rename source target = .ok g) (hf : f.Distinct) : g.Distinct := by
  obtain ⟨entries, slot, rfl, -, rfl⟩ := rename_eq h
  exact nodup_put (nodup_filter hf _) target slot

theorem removeFile_distinct {f g : Folder} {name : List UInt8} (h : f.removeFile name = .ok g)
    (hf : f.Distinct) : g.Distinct := by
  obtain ⟨entries, rfl, rfl⟩ := removeFile_eq h
  exact nodup_filter hf _

theorem create_distinct {f g : Folder} (h : f.create = .ok g) (hf : f.Distinct) : g.Distinct := by
  cases f with
  | absent =>
    cases h
    exact List.nodup_nil
  | blocked => cases h
  | present entries =>
    cases h
    exact hf

end Folder

/-- A key text has no `.`: it is hexadecimal digits. -/
theorem CacheKey.dot_not_mem_of_isKeyText {text : String} (h : CacheKey.isKeyText text = true) :
    '.' ∉ text.toList := by
  simp only [CacheKey.isKeyText, Bool.and_eq_true, List.all_eq_true] at h
  exact fun hdot => absurd (h.2 '.' hdot) (by decide)

namespace FileStore

open Folder

theorem fileName_injective {key key' : CacheKey} (h : fileName key = fileName key') :
    key = key' := by
  have h' := congrArg Utf8.validate h
  simp only [fileName, Utf8.validate_encode] at h'
  obtain ⟨text⟩ := key
  obtain ⟨text'⟩ := key'
  cases Except.ok.inj h'
  rfl

/-- The file of a key text is no key's temporary file: a key text has no `.`. -/
theorem fileName_ne_tempName_of_isKeyText {key key' : CacheKey}
    (h : CacheKey.isKeyText key'.text = true) : fileName key' ≠ tempName key := by
  intro heq
  have htext := congrArg Utf8.validate heq
  simp only [fileName, tempName, Utf8.validate_encode, Except.ok.injEq] at htext
  refine CacheKey.dot_not_mem_of_isKeyText h ?_
  rw [htext, String.toList_append]
  simp

/-! ### Folder operations, run -/

theorem run_pure {α : Type} (a : α) (f : Folder) : (pure a : FolderM α).run.run f = (.ok a, f) :=
  rfl

/-- An operation with a handler: the handler runs on the folder the operation left, if it
    failed. -/
theorem run_tryCatch {α : Type} (x : FolderM α) (handler : CacheError → FolderM α) (f : Folder) :
    (tryCatch x handler).run.run f =
      match x.run.run f with
      | (.ok a, g) => (.ok a, g)
      | (.error e, g) => (handler e).run.run g := by
  rw [ExceptT.run_tryCatch, StateT.run_bind]
  rcases x.run.run f with ⟨_ | a, g⟩ <;> rfl

theorem change_run (op : Folder → Except IoError Folder) (f : Folder) :
    (change op).run.run f =
      match op f with
      | .ok g => (.ok (), g)
      | .error e => (.error (ioError e), f) := by
  unfold change
  rw [run_get_bind]
  cases op f <;> rfl

theorem attempt_run (op : Folder → Except IoError Folder) (f : Folder) :
    (attempt op).run.run f =
      (.ok (), match op f with
        | .ok g => g
        | .error _ => f) := rfl

/-- A write of an entry that succeeds has encoded it, and leaves its bytes at the key's name
    and nothing at the temporary name; every other name holds what it held. -/
theorem writeEntry_slot? {key : CacheKey} {entry : CacheEntry} {time : Nat} {f g : Folder}
    (h : (writeEntry key entry time).run.run f = (.ok (), g)) :
    ∃ data, Codec.encode entry = .ok data ∧ g ≠ .blocked ∧ (f.Distinct → g.Distinct) ∧
      ∀ n, g.slot? n = if n = fileName key then some (.file data time)
        else if n = tempName key then none else f.slot? n := by
  unfold writeEntry at h
  dsimp only at h
  rcases hencode : Codec.encode entry with e | data
  · simp only [hencode] at h
    rw [run_bind] at h
    cases h
  simp only [hencode] at h
  rw [run_bind, run_pure] at h
  dsimp only at h
  rw [run_bind, change_run] at h
  rcases hwrite : f.write (tempName key) data time with e | f₁
  · simp only [hwrite] at h
    cases h
  simp only [hwrite] at h
  rw [run_get_bind] at h
  rcases hrename : f₁.rename (tempName key) (fileName key) with e | f₂
  · simp only [hrename] at h
    rw [run_bind, attempt_run] at h
    cases h
  simp only [hrename] at h
  cases h
  refine ⟨data, rfl, ?_, fun hf => rename_distinct hrename (write_distinct hwrite hf), fun n => ?_⟩
  · obtain ⟨_, _, _, _, rfl⟩ := rename_eq hrename
    nofun
  · rw [rename_slot? hrename, write_slot? hwrite, write_slot? hwrite]
    by_cases hf : n = fileName key
    · simp [hf]
    · by_cases ht : n = tempName key <;> simp [hf, ht]

/-- A write of an entry that fails leaves every name but the temporary one as it was. -/
theorem writeEntry_of_error {key : CacheKey} {entry : CacheEntry} {time : Nat} {f g : Folder}
    {e : CacheError} (h : (writeEntry key entry time).run.run f = (.error e, g)) :
    ∀ n, n ≠ tempName key → g.slot? n = f.slot? n := by
  unfold writeEntry at h
  dsimp only at h
  rcases hencode : Codec.encode entry with e' | data
  · simp only [hencode] at h
    rw [run_bind] at h
    cases h
    exact fun _ _ => rfl
  simp only [hencode] at h
  rw [run_bind, run_pure] at h
  dsimp only at h
  rw [run_bind, change_run] at h
  rcases hwrite : f.write (tempName key) data time with e' | f₁
  · simp only [hwrite] at h
    cases h
    exact fun _ _ => rfl
  simp only [hwrite] at h
  rw [run_get_bind] at h
  rcases hrename : f₁.rename (tempName key) (fileName key) with e' | f₂
  · simp only [hrename] at h
    rw [run_bind, attempt_run] at h
    cases h
    -- The temporary file is removed, when it can be; no other name changes.
    intro n hn
    split
    · rw [removeFile_slot? ‹_›, if_neg hn, write_slot? hwrite, if_neg hn]
    · rw [write_slot? hwrite, if_neg hn]
  · simp only [hrename] at h
    cases h

/-! ### Operations that only remove -/

/-- An operation that, on any folder, only removes entries from it. -/
def OnlyRemoves {α : Type} (x : FolderM α) : Prop :=
  ∀ f, Shrinks f (x.run.run f).2

section OnlyRemoves

variable {α β : Type}

theorem OnlyRemoves.pure (a : α) : OnlyRemoves (Pure.pure a : FolderM α) :=
  fun f => Shrinks.refl f

theorem OnlyRemoves.bind {x : FolderM α} {k : α → FolderM β} (hx : OnlyRemoves x)
    (hk : ∀ a, OnlyRemoves (k a)) : OnlyRemoves (x >>= k) := by
  intro f
  rw [run_bind]
  have hf := hx f
  rcases hrun : x.run.run f with ⟨_ | a, g⟩
  · rw [hrun] at hf
    exact hf
  · rw [hrun] at hf
    exact hf.trans (hk a g)

/-- An operation that looks at the folder first only removes when it does on each folder it
    may find. -/
theorem OnlyRemoves.get_bind {k : Folder → FolderM α}
    (hk : ∀ f, Shrinks f ((k f).run.run f).2) : OnlyRemoves (get >>= k) := by
  intro f
  rw [run_get_bind]
  exact hk f

theorem OnlyRemoves.tryCatch {x : FolderM α} {handler : CacheError → FolderM α}
    (hx : OnlyRemoves x) (hh : ∀ e, OnlyRemoves (handler e)) :
    OnlyRemoves (MonadExcept.tryCatch x handler) := by
  intro f
  have hf := hx f
  rw [run_tryCatch]
  rcases hrun : x.run.run f with ⟨_ | a, g⟩
  · rw [hrun] at hf
    exact hf.trans (hh _ g)
  · rw [hrun] at hf
    exact hf

theorem onlyRemoves_attempt_removeFile (name : List UInt8) :
    OnlyRemoves (attempt (·.removeFile name)) := by
  intro f
  rw [attempt_run]
  rcases hr : f.removeFile name with e | g
  · exact Shrinks.refl f
  · exact removeFile_shrinks hr

end OnlyRemoves

theorem scan_onlyRemoves : ∀ entries : List (List UInt8 × Slot), OnlyRemoves (scan entries)
  | [] => OnlyRemoves.pure _
  | (name, slot) :: rest => by
    have ih := scan_onlyRemoves rest
    unfold scan
    split
    · exact ih
    · split
      · exact (onlyRemoves_attempt_removeFile name).bind fun _ => ih
      · exact ih.bind fun _ => OnlyRemoves.pure _
      · exact ih

theorem listFiles_onlyRemoves : OnlyRemoves listFiles := by
  unfold listFiles
  refine OnlyRemoves.get_bind fun f => ?_
  split
  · exact Shrinks.refl f
  · exact Shrinks.refl f
  · exact scan_onlyRemoves _ f

theorem evict_onlyRemoves (maxSize : Nat) :
    ∀ (files : List CacheFile) (total : Nat), OnlyRemoves (evict maxSize files total)
  | [], _ => OnlyRemoves.pure _
  | file :: rest, total => by
    unfold evict
    split
    · exact OnlyRemoves.pure _
    refine OnlyRemoves.get_bind fun f => ?_
    split
    · -- The file is removed, then eviction goes on from the folder without it.
      rename_i g hg
      rw [run_bind]
      exact (removeFile_shrinks hg).trans (evict_onlyRemoves maxSize rest _ g)
    · exact evict_onlyRemoves maxSize rest _ f
    · exact evict_onlyRemoves maxSize rest _ f

/-- Trimming only removes files, whatever the folder holds. -/
theorem trim_onlyRemoves (maxSize : Nat) (written : CacheKey) :
    OnlyRemoves (trim maxSize written) := by
  unfold trim
  refine listFiles_onlyRemoves.bind fun files => ?_
  dsimp only
  split
  · exact OnlyRemoves.pure _
  · exact evict_onlyRemoves maxSize _ _

theorem runOn_eq {α : Type} (s : FileStore) (op : FolderM α) :
    s.runOn op = ((op.run.run s.folder).1, { s with folder := (op.run.run s.folder).2 }) := rfl

/-- The records in a key's file depend only on what stands at its name. -/
theorem recordsIn_eq_of_slot? {f g : Folder} (hf : f ≠ .blocked) (hg : g ≠ .blocked)
    {key : CacheKey} (h : f.slot? (fileName key) = g.slot? (fileName key)) :
    recordsIn f key = recordsIn g key := by
  unfold recordsIn
  rw [read_eq_of_slot? hf hg h]

/-- A key whose name holds nothing holds no records. -/
theorem recordsIn_of_slot?_none {f : Folder} (hf : f ≠ .blocked) {key : CacheKey}
    (h : f.slot? (fileName key) = none) : recordsIn f key = [] := by
  unfold recordsIn
  rw [read_eq hf, h]

/-- A key whose file holds some bytes holds what they decode to, and nothing when they do not
    decode. -/
theorem recordsIn_of_slot?_file {f : Folder} (hf : f ≠ .blocked) {key : CacheKey}
    {data : List UInt8} {time : Nat} (h : f.slot? (fileName key) = some (.file data time)) :
    (∀ entry, Codec.decode data = .ok entry → recordsIn f key = entry.records) ∧
      (∀ e, Codec.decode data = .error e → recordsIn f key = []) := by
  have hread : f.read (fileName key) = .ok data := by
    rw [read_eq hf, h]
  refine ⟨fun entry hd => ?_, fun e hd => ?_⟩ <;>
  · unfold recordsIn
    simp only [hread, hd]

/-- A blocked folder holds no records. -/
theorem recordsIn_blocked (key : CacheKey) : recordsIn .blocked key = [] := rfl

/-- A key holds no more records in a folder whose slot for it is as in another or emptied. -/
theorem recordsIn_subset_of_slot? {f g : Folder} {key : CacheKey}
    (hslot : g.slot? (fileName key) = f.slot? (fileName key) ∨ g.slot? (fileName key) = none)
    {r : CacheRecord} (hr : r ∈ recordsIn g key) : r ∈ recordsIn f key := by
  by_cases hg : g = .blocked
  · rw [hg, recordsIn_blocked] at hr
    cases hr
  by_cases hf : f = .blocked
  · -- A blocked folder has nothing at any name, so neither has `g` at the key's.
    have hnone : g.slot? (fileName key) = none := by
      rw [hf, slot?_blocked, or_self] at hslot
      exact hslot
    rw [recordsIn_of_slot?_none hg hnone] at hr
    cases hr
  rcases hslot with hsame | hnone
  · rwa [recordsIn_eq_of_slot? hg hf hsame] at hr
  · rw [recordsIn_of_slot?_none hg hnone] at hr
    cases hr

/-- Reading a key's entry at most removes the key's file. -/
theorem readEntry_shrinks (key : CacheKey) (f : Folder) :
    Shrinks f ((readEntry key).run.run f).2 := by
  rw [readEntry_run]
  rcases f.read (fileName key) with e | data
  · cases e <;> exact Shrinks.refl f
  · dsimp only
    rcases Codec.decode data with e | entry
    · dsimp only
      split
      · exact removeFile_shrinks ‹_›
      · exact Shrinks.refl f
    · exact Shrinks.refl f

/-- A read of a key's entry that succeeds gives the records in the key's file, and at most
    removes that file. -/
theorem readEntry_ok {key : CacheKey} {f g : Folder} {entry : CacheEntry}
    (h : (readEntry key).run.run f = (.ok entry, g)) :
    entry = ⟨recordsIn f key⟩ ∧ (f.Distinct → g.Distinct) ∧
      ∀ n, n ≠ fileName key → g.slot? n = f.slot? n := by
  rw [readEntry_run] at h
  unfold recordsIn
  rcases hread : f.read (fileName key) with e | data
  · rw [hread] at h
    cases e <;> cases h
    exact ⟨rfl, id, fun _ _ => rfl⟩
  rw [hread] at h
  dsimp only at h ⊢
  rcases hdecode : Codec.decode data with e | decoded
  · rw [hdecode] at h
    cases h
    -- A file that does not decode is removed, when it can be.
    refine ⟨rfl, ?_, fun n hn => ?_⟩
    · split
      · exact removeFile_distinct ‹_›
      · exact id
    · split
      · rw [removeFile_slot? ‹_›, if_neg hn]
      · rfl
  · rw [hdecode] at h
    cases h
    exact ⟨rfl, id, fun _ _ => rfl⟩

/-- A failure of an operation whose handler does nothing leaves the folder as it left it. -/
theorem run_tryCatch_pure_snd {α : Type} (x : FolderM α) (a : α) (f : Folder) :
    ((tryCatch x fun _ => pure a).run.run f).2 = (x.run.run f).2 := by
  rw [run_tryCatch]
  rcases x.run.run f with ⟨_ | b, g⟩ <;> rfl

/-- An operation whose failures are passed over succeeds. -/
theorem run_tryCatch_pure_fst (x : FolderM Unit) (f : Folder) :
    ((tryCatch x fun _ => pure ()).run.run f).1 = .ok () := by
  rw [run_tryCatch]
  rcases x.run.run f with ⟨_ | b, g⟩ <;> rfl

/-- A store succeeds once its write does: a failure to trim is not the store's. -/
theorem store_fst_of_write {s : FileStore} {key : CacheKey} {record : CacheRecord} {time : Nat}
    {created read written : Folder} {entry : CacheEntry}
    (hcreate : s.folder.create = .ok created)
    (hread : (readEntry key).run.run created = (.ok entry, read))
    (hwrite : (writeEntry key (entry.upsert record) time).run.run read = (.ok (), written)) :
    (s.store key record time).1 = .ok () := by
  unfold store
  rw [runOn_eq]
  dsimp only
  rw [run_bind, change_run, hcreate]
  dsimp only
  rw [run_bind, hread]
  dsimp only
  rw [run_bind, hwrite]
  exact run_tryCatch_pure_fst _ written

/-- A store that succeeds has encoded the records of the key's file with the record upserted,
    and leaves the folder with that file written at the key's name, the temporary name empty
    and every other name as it was, then trimmed. -/
theorem store_slot? {s : FileStore} {key : CacheKey} {record : CacheRecord} {time : Nat}
    (h : (s.store key record time).1 = .ok ()) :
    ∃ data, Codec.encode ((⟨recordsIn s.folder key⟩ : CacheEntry).upsert record) = .ok data ∧
      ∃ written : Folder, written ≠ .blocked ∧ (s.folder.Distinct → written.Distinct) ∧
        (∀ n, written.slot? n = if n = fileName key then some (.file data time)
          else if n = tempName key then none else s.folder.slot? n) ∧
        (s.store key record time).2.folder = ((trim s.maxSize key).run.run written).2 := by
  unfold store at h ⊢
  rw [runOn_eq] at h ⊢
  dsimp only at h ⊢
  rw [run_bind, change_run] at h ⊢
  rcases hcreate : s.folder.create with e | created
  · simp only [hcreate] at h
    cases h
  simp only [hcreate] at h ⊢
  obtain ⟨hcreated, hsame⟩ := create_eq hcreate
  rw [run_bind] at h ⊢
  rcases hread : (readEntry key).run.run created with ⟨_ | entry, read⟩
  · simp only [hread] at h
    cases h
  simp only [hread] at h ⊢
  obtain ⟨rfl, hreadDistinct, hkept⟩ := readEntry_ok hread
  rw [run_bind] at h ⊢
  rcases hwrite :
      (writeEntry key (CacheEntry.upsert ⟨recordsIn created key⟩ record) time).run.run read
    with ⟨_ | u, written⟩
  · simp only [hwrite] at h
    cases h
  obtain ⟨data, hencode, hwritten, hwriteDistinct, hslot⟩ := writeEntry_slot? hwrite
  have hfolder : s.folder ≠ .blocked := by
    rintro hb
    rw [hb] at hcreate
    cases hcreate
  refine ⟨data, ?_, written, hwritten,
    fun hs => hwriteDistinct (hreadDistinct (create_distinct hcreate hs)), fun n => ?_,
    run_tryCatch_pure_snd _ _ written⟩
  · rwa [recordsIn_eq_of_slot? hcreated hfolder (hsame _)] at hencode
  · -- The read may have removed the key's file, which the write puts back.
    rw [hslot n]
    split
    · rfl
    · split
      · rfl
      · rw [hkept n ‹_›, hsame]

/-- After a store that succeeds, the folder is the written one, shrunk by trimming. -/
theorem store_shrinks {s : FileStore} {key : CacheKey} {record : CacheRecord} {time : Nat}
    (h : (s.store key record time).1 = .ok ()) :
    ∃ data, Codec.encode ((⟨recordsIn s.folder key⟩ : CacheEntry).upsert record) = .ok data ∧
      ∃ written : Folder, written ≠ .blocked ∧
        (∀ n, written.slot? n = if n = fileName key then some (.file data time)
          else if n = tempName key then none else s.folder.slot? n) ∧
        Shrinks written (s.store key record time).2.folder := by
  obtain ⟨data, hencode, written, hwritten, -, hslot, htrim⟩ := store_slot? h
  exact ⟨data, hencode, written, hwritten, hslot, htrim ▸ trim_onlyRemoves s.maxSize key written⟩

/-- After a store that fails, every name but the temporary one holds what it held, or
    nothing: the read may have removed the key's file. -/
theorem store_of_error {s : FileStore} {key : CacheKey} {record : CacheRecord} {time : Nat}
    {e : CacheError} (h : (s.store key record time).1 = .error e) :
    ∀ n, n ≠ tempName key → (s.store key record time).2.folder.slot? n = s.folder.slot? n ∨
      (s.store key record time).2.folder.slot? n = none := by
  unfold store at h ⊢
  rw [runOn_eq] at h ⊢
  dsimp only at h ⊢
  rw [run_bind, change_run] at h ⊢
  rcases hcreate : s.folder.create with e' | created
  · exact fun _ _ => .inl rfl
  simp only [hcreate] at h ⊢
  obtain ⟨-, hsame⟩ := create_eq hcreate
  have hshrinks := readEntry_shrinks key created
  rw [run_bind] at h ⊢
  rcases hread : (readEntry key).run.run created with ⟨_ | entry, read⟩
  · rw [hread] at hshrinks
    intro n _
    rw [← hsame n]
    exact hshrinks.slot n
  rw [hread] at hshrinks
  simp only [hread] at h ⊢
  rw [run_bind] at h ⊢
  rcases hwrite : (writeEntry key (entry.upsert record) time).run.run read with ⟨_ | u, written⟩
  · intro n hn
    rw [writeEntry_of_error hwrite n hn, ← hsame n]
    exact hshrinks.slot n
  · simp only [hwrite] at h
    rw [run_tryCatch_pure_fst] at h
    cases h

end FileStore

end FeatureFlags
