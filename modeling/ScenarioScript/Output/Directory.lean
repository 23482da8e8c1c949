import ScenarioScript.Association
import ScenarioScript.Text.Utf8

/-!
# Directories

A directory is an association list of names with what stands under them: files, and directories in
turn.

**Main definitions.**

* `FileEntry` is a file or a directory, `Directory` what a directory holds.
* `Directory.lookup?` follows names downwards.
* `Directory.set` sets what stands under a sequence of names.
* `Directory.files` lists the files of a directory and of all below it.

**Main statement.** `Directory.lookup?_set_self`: what has been set is found again.
-/

namespace ScenarioScript

/-- **What stands under a name.** -/
inductive FileEntry where
  | file (content : Bytes)
  | directory (entries : List (Text × FileEntry))
deriving Repr

def FileEntry.isDirectory : FileEntry → Bool
  | .file _ => false
  | .directory _ => true

/-- **What a directory holds.** -/
abbrev Directory := List (Text × FileEntry)

namespace Directory

/-- **What names lead to**, from a directory downwards; without names it is the directory itself. -/
def lookup? : Directory → List Text → Option FileEntry
  | directory, [] => some (.directory directory)
  | directory, [name] => Association.get? name directory
  | directory, name :: names =>
    match Association.get? name directory with
    | some (.directory inner) => lookup? inner names
    | _ => none

/-- What the directory under a name holds; nothing if none is there. -/
def inner (directory : Directory) (name : Text) : Directory :=
  match Association.get? name directory with
  | some (.directory inner) => inner
  | _ => []

/-- **Sets what stands under a sequence of names.** Directories that are missing on the way are
    made; without names nothing changes. -/
def set (entry : FileEntry) : Directory → List Text → Directory
  | directory, [] => directory
  | directory, [name] => Association.put name entry directory
  | directory, name :: names =>
    Association.put name (.directory (set entry (directory.inner name) names)) directory

/-- What has been set is found again. -/
theorem lookup?_set_self (entry : FileEntry) (directory : Directory) (name : Text)
    (names : List Text) :
    (directory.set entry (name :: names)).lookup? (name :: names) = some entry := by
  induction names generalizing directory name with
  | nil => simp only [set, lookup?, Association.get?_put_self]
  | cons next rest ih =>
    simp only [set, lookup?, Association.get?_put_self]
    exact ih (directory.inner name) next

end Directory

mutual

/-- The files of an entry.  `names` are the names that lead to it, innermost first. -/
def FileEntry.files (names : List Text) : FileEntry → List (List Text × Bytes)
  | .file content => [(names, content)]
  | .directory entries => Directory.files names entries

/-- **The files of a directory and of all below it**, with the names that lead to them, innermost
    first. -/
def Directory.files (names : List Text) : List (Text × FileEntry) → List (List Text × Bytes)
  | [] => []
  | (name, entry) :: rest => entry.files (name :: names) ++ Directory.files names rest

end

end ScenarioScript
