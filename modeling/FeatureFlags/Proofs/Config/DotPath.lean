import Mathlib
import FeatureFlags.Config.File

/-!
# Dot paths

A dot path is read key by key: its segments are the texts between its dots, and each
segment selects, in the mapping reached so far, the entry whose key is that string. A
segment that is empty, or a value that is no mapping, ends the look-up with nothing.

Read so, a look-up is a monadic fold of one step over the segments
(`ConfigFile.lookup_eq_foldlM`), and a path joined by a dot is the fold over the
segments of both parts. Hence:

* `ConfigFile.lookup_append_dot`: a look-up of `p.q` is a look-up of `p`, then of `q` in
  the value found;
* `ConfigFile.lookup_of_empty_mem_segments`: a path with an empty segment finds nothing;
* `YamlValue.get?_eq_some_iff`: a segment selects the first entry of a mapping whose key
  is exactly that string, whatever the other keys are (numbers, tagged strings, mappings);
* `ConfigFile.lookup_dot_path`: the three together.
-/

namespace FeatureFlags

open Yaml

namespace Yaml.YamlValue

/-- A key equals a string key exactly when it is that string. -/
@[simp] theorem same_string_iff (k : YamlValue) (s : String) :
    same k (.string s) = true ↔ k = .string s := by
  cases k <;> simp [same]

@[simp] theorem same_string_eq_false_iff (k : YamlValue) (s : String) :
    same k (.string s) = false ↔ k ≠ .string s := by
  rw [← Bool.not_eq_true, same_string_iff]

/-- The value of a key is that of the first entry whose key is equal to it. -/
theorem lookupIn_eq_find? (entries : List (YamlValue × YamlValue)) (key : YamlValue) :
    lookupIn entries key = (entries.find? (same ·.1 key)).map (·.2) := by
  induction entries with
  | nil => rfl
  | cons entry rest ih =>
    obtain ⟨k, v⟩ := entry
    by_cases hk : same k key = true <;> simp [lookupIn, hk, ih]

/-- The value of a string key is that of the first entry whose key is the string. -/
theorem lookupIn_string_eq_some_iff (entries : List (YamlValue × YamlValue)) (s : String)
    (w : YamlValue) :
    lookupIn entries (.string s) = some w ↔
      ∃ pre post, entries = pre ++ (.string s, w) :: post ∧ ∀ e ∈ pre, e.1 ≠ .string s := by
  rw [lookupIn_eq_find?, Option.map_eq_some_iff]
  constructor
  · rintro ⟨⟨k, w'⟩, hfind, rfl⟩
    obtain ⟨hk, pre, post, rfl, hpre⟩ := List.find?_eq_some_iff_append.1 hfind
    -- The entry found has the string as its key, and none before it has.
    obtain rfl : k = .string s := (same_string_iff k s).1 hk
    exact ⟨pre, post, rfl, fun e he => by simpa using hpre e he⟩
  · rintro ⟨pre, post, rfl, hpre⟩
    refine ⟨(.string s, w), List.find?_eq_some_iff_append.2 ⟨by simp, pre, post, rfl, ?_⟩, rfl⟩
    intro e he
    simpa using hpre e he

/-- A string key selects the first entry of a mapping whose key is exactly that string;
    anything but a mapping has no entries. -/
theorem get?_eq_some_iff (v : YamlValue) (s : String) (w : YamlValue) :
    v.get? s = some w ↔
      ∃ pre post, v = .mapping (pre ++ (.string s, w) :: post) ∧ ∀ e ∈ pre, e.1 ≠ .string s := by
  cases v with
  | mapping entries => simp [get?, lookupIn_string_eq_some_iff]
  | _ => simp [get?]

end Yaml.YamlValue

namespace ConfigFile

/-- One step of a look-up: the entry of a segment, which may not be empty. -/
def child? (v : YamlValue) (key : String) : Option YamlValue :=
  if key.isEmpty then none else v.get? key

@[simp] theorem child?_empty (v : YamlValue) : child? v "" = none := rfl

/-- A path has a segment at least. -/
theorem segments_ne_nil (path : String) : segments path ≠ [] := by
  simp [segments, List.splitOn_ne_nil]

/-- The segments of a path joined by a dot are those of its parts. -/
theorem segments_append_dot (p q : String) : segments (p ++ "." ++ q) = segments p ++ segments q := by
  have hdot : ".".toList = ['.'] := rfl
  simp [segments, String.toList_append, hdot, List.splitOn_append_cons_self]

/-- A text without a dot is one segment. -/
theorem segments_of_dot_not_mem {key : String} (h : '.' ∉ key.toList) : segments key = [key] := by
  simp [segments, List.splitOn_eq_singleton h]

/-- A look-up takes one step, then ends with the value found or goes on in it. -/
theorem lookupPath_cons (v : YamlValue) (key : String) (rest : List String) :
    lookupPath v (key :: rest) =
      (child? v key).bind fun w => if rest = [] then some w else lookupPath w rest := by
  rw [lookupPath.eq_def, child?]
  by_cases hk : key.isEmpty = true
  · simp [hk]
  · simp only [hk, Bool.false_eq_true, if_false]
    cases v with
    | mapping entries =>
      simp only
      split <;> simp_all
    | _ => rfl

/-- Looking up some keys is folding the step over them. -/
theorem lookupPath_eq_foldlM (v : YamlValue) {keys : List String} (h : keys ≠ []) :
    lookupPath v keys = keys.foldlM child? v := by
  induction keys generalizing v with
  | nil => exact absurd rfl h
  | cons key rest ih =>
    rw [lookupPath_cons, List.foldlM_cons]
    cases child? v key with
    | none => rfl
    | some w =>
      -- The value found ends the look-up, or the rest of the keys is looked up in it.
      cases rest with
      | nil => rfl
      | cons key' rest' => simpa using ih w (List.cons_ne_nil _ _)

/-- A fold that meets an empty segment ends with nothing. -/
theorem foldlM_child?_of_empty_mem {keys : List String} (h : "" ∈ keys) (v : YamlValue) :
    keys.foldlM child? v = none := by
  induction keys generalizing v with
  | nil => simp at h
  | cons key rest ih =>
    rw [List.foldlM_cons]
    rcases List.mem_cons.1 h with rfl | hrest
    · simp
    · cases child? v key with
      | none => rfl
      | some w => exact ih hrest w

/-- A look-up folds the step over the segments of the path. -/
theorem lookup_eq_foldlM (v : YamlValue) (path : String) :
    (⟨v⟩ : ConfigFile).lookup path = (segments path).foldlM child? v :=
  lookupPath_eq_foldlM v (segments_ne_nil path)

/-- A look-up of `p.q` is a look-up of `p`, then of `q` in the value found. -/
theorem lookup_append_dot (v : YamlValue) (p q : String) :
    (⟨v⟩ : ConfigFile).lookup (p ++ "." ++ q) =
      ((⟨v⟩ : ConfigFile).lookup p).bind fun w => (⟨w⟩ : ConfigFile).lookup q := by
  simp only [lookup_eq_foldlM, segments_append_dot, List.foldlM_append]
  rfl

/-- A path with an empty segment finds nothing. -/
theorem lookup_of_empty_mem_segments (v : YamlValue) {path : String}
    (h : "" ∈ segments path) : (⟨v⟩ : ConfigFile).lookup path = none := by
  rw [lookup_eq_foldlM]
  exact foldlM_child?_of_empty_mem h v

/-- A path of one segment is the entry of that segment. -/
theorem lookup_segment (v : YamlValue) {key : String} (hne : key ≠ "") (hdot : '.' ∉ key.toList) :
    (⟨v⟩ : ConfigFile).lookup key = v.get? key := by
  rw [lookup_eq_foldlM, segments_of_dot_not_mem hdot]
  simp [child?, String.isEmpty_iff, hne]

/-- Dot-path look-ups compose: a look-up of `p.q` looks up `p` and then `q` in what it found;
    a path with an empty segment (the empty path, a leading, trailing or doubled dot) finds
    nothing; and a segment selects the first entry whose key is exactly that string. -/
theorem lookup_dot_path :
    (∀ (v : YamlValue) (p q : String), (⟨v⟩ : ConfigFile).lookup (p ++ "." ++ q) =
      ((⟨v⟩ : ConfigFile).lookup p).bind fun w => (⟨w⟩ : ConfigFile).lookup q) ∧
    (∀ (v : YamlValue) (path : String), "" ∈ segments path →
      (⟨v⟩ : ConfigFile).lookup path = none) ∧
    (∀ (v : YamlValue) (key : String) (w : YamlValue), key ≠ "" → '.' ∉ key.toList →
      ((⟨v⟩ : ConfigFile).lookup key = some w ↔
        ∃ pre post, v = .mapping (pre ++ (.string key, w) :: post) ∧
          ∀ e ∈ pre, e.1 ≠ .string key)) := by
  refine ⟨lookup_append_dot, fun v path h => lookup_of_empty_mem_segments v h,
    fun v key w hne hdot => ?_⟩
  rw [lookup_segment v hne hdot]
  exact YamlValue.get?_eq_some_iff v key w

/-- A document whose mapping has the number `1` as a key before the string `"1"`. -/
def numberedDoc : YamlValue :=
  .mapping [(.number (.natural 1), .bool false), (.string "1", .bool true)]

theorem lookup_dot_path_numberedDoc :
    ((⟨numberedDoc⟩ : ConfigFile).lookup ("1" ++ "." ++ "x") =
      ((⟨numberedDoc⟩ : ConfigFile).lookup "1").bind fun w => (⟨w⟩ : ConfigFile).lookup "x") ∧
    ("" ∈ segments "1..x" ∧ (⟨numberedDoc⟩ : ConfigFile).lookup "1..x" = none) ∧
    ("1" ≠ "" ∧ '.' ∉ "1".toList ∧
      ((⟨numberedDoc⟩ : ConfigFile).lookup "1" = some (.bool true) ↔
        ∃ pre post, numberedDoc = .mapping (pre ++ (.string "1", .bool true) :: post) ∧
          ∀ e ∈ pre, e.1 ≠ .string "1")) :=
  have hempty : "" ∈ segments "1..x" := by decide +kernel
  have hne : "1" ≠ "" := by decide
  have hdot : '.' ∉ "1".toList := by decide +kernel
  ⟨lookup_dot_path.1 numberedDoc "1" "x", ⟨hempty, lookup_dot_path.2.1 numberedDoc "1..x" hempty⟩,
    ⟨hne, hdot, lookup_dot_path.2.2 numberedDoc "1" (.bool true) hne hdot⟩⟩

/-- The string key is found past the number key that reads the same. -/
example : (⟨numberedDoc⟩ : ConfigFile).lookup "1" = some (.bool true) := by
  rw [lookup_segment numberedDoc (by decide) (by decide +kernel)]
  simp [numberedDoc, YamlValue.get?, YamlValue.lookupIn]

end ConfigFile

end FeatureFlags
