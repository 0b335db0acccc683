import FeatureFlags.Text.Utf8

/-!
# The cache folder

The directory store keeps its files in one folder. A `Folder` is that folder as the file
system shows it: missing, blocked by a plain file standing at its path, or present with
entries, each a file (bytes and a modification time) or a directory. Names are raw bytes,
as the file system keeps them.

The operations fail as the file system does: reading or removing a missing file is
`notFound`, reading or removing a directory as a file is `isADirectory`, anything inside
a blocked folder is `notADirectory`, and creating the folder where a file stands is
`alreadyExists`.
-/

namespace FeatureFlags

/-- A file system error. -/
inductive IoError where
  | notFound
  | isADirectory
  | notADirectory
  | alreadyExists
  deriving Repr, DecidableEq

/-- The text of a file system error. -/
def IoError.message : IoError → String
  | .notFound => "No such file or directory (os error 2)"
  | .isADirectory => "Is a directory (os error 21)"
  | .notADirectory => "Not a directory (os error 20)"
  | .alreadyExists => "File exists (os error 17)"

/-- What stands at a name in the folder. -/
inductive Slot where
  | file (data : List UInt8) (modified : Nat)
  | dir
  deriving Repr, DecidableEq, Inhabited

/-- The cache folder. -/
inductive Folder where
  | absent
  /-- A plain file stands where the folder belongs. -/
  | blocked
  | present (entries : List (List UInt8 × Slot))
  deriving Repr, DecidableEq, Inhabited

namespace Folder

/-- The entries, or the error of listing them. -/
def list : Folder → Except IoError (List (List UInt8 × Slot))
  | .absent => .error .notFound
  | .blocked => .error .notADirectory
  | .present entries => .ok entries

/-- What stands at a name. -/
def lookup (f : Folder) (name : List UInt8) : Except IoError (Option Slot) := do
  pure (((← f.list).find? (·.1 = name)).map (·.2))

/-- Reads a file. -/
def read (f : Folder) (name : List UInt8) : Except IoError (List UInt8) := do
  match ← f.lookup name with
  | some (.file data _) => pure data
  | some .dir => throw .isADirectory
  | none => throw .notFound

/-- Sets what stands at a name. -/
def put (entries : List (List UInt8 × Slot)) (name : List UInt8) (slot : Slot) :
    List (List UInt8 × Slot) :=
  if entries.any (·.1 = name) then entries.map fun (n, s) => if n = name then (n, slot) else (n, s)
  else entries ++ [(name, slot)]

/-- Writes a file, replacing a file of the same name. -/
def write (f : Folder) (name : List UInt8) (data : List UInt8) (time : Nat) : Except IoError Folder := do
  let entries ← f.list
  match ← f.lookup name with
  | some .dir => throw .isADirectory
  | _ => pure (.present (put entries name (.file data time)))

/-- Renames a file over a file or a free name. -/
def rename (f : Folder) (source target : List UInt8) : Except IoError Folder := do
  let entries ← f.list
  match ← f.lookup source, ← f.lookup target with
  | none, _ => throw .notFound
  | some .dir, _ => throw .isADirectory
  | some _, some .dir => throw .isADirectory
  | some slot, _ =>
    pure (.present (put (entries.filter (·.1 ≠ source)) target slot))

/-- Removes a file. -/
def removeFile (f : Folder) (name : List UInt8) : Except IoError Folder := do
  let entries ← f.list
  match ← f.lookup name with
  | some (.file _ _) => pure (.present (entries.filter (·.1 ≠ name)))
  | some .dir => throw .isADirectory
  | none => throw .notFound

/-- Creates the folder if it is missing. -/
def create : Folder → Except IoError Folder
  | .absent => .ok (.present [])
  | .blocked => .error .alreadyExists
  | f@(.present _) => .ok f

/-- Creates a directory in the folder, and the folder if needed. -/
def makeDir (f : Folder) (name : List UInt8) : Except IoError Folder := do
  match f with
  | .blocked => throw .notADirectory
  | _ =>
    let f ← f.create
    match ← f.lookup name with
    | some .dir => pure f
    | some (.file _ _) => throw .alreadyExists
    | none => pure (.present (put (← f.list) name .dir))

/-- Removes the folder and everything in it; a blocked folder stays. -/
def removeAll : Folder → Folder
  | .blocked => .blocked
  | _ => .absent

/-- Sets the modification time of a file; anything else is left as it is. -/
def setModified (f : Folder) (name : List UInt8) (time : Nat) : Folder :=
  match f with
  | .present entries =>
    .present (entries.map fun (n, s) =>
      match s with
      | .file data _ => if n = name then (n, .file data time) else (n, s)
      | .dir => (n, s))
  | other => other

/-- Whether something stands at a name. -/
def contains (f : Folder) (name : List UInt8) : Bool :=
  match f.lookup name with
  | .ok (some _) => true
  | _ => false

end Folder

end FeatureFlags
