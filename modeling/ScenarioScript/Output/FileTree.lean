import ScenarioScript.Association
import ScenarioScript.Output.Directory
import ScenarioScript.Output.Path
import ScenarioScript.Text.Encoding
import ScenarioScript.Text.Quoted

/-!
# A tree of files, and who writes to it

Files and directories as a program sees them from its working directory.  A place is where a path
leads once double dots have been followed.  Scripts go to the disk, into memory, or nowhere because
the writer fails.

**Main definitions.**

* `Place` is a place, `FileTree.lookup?` what stands there.
* `FileTree.locate` follows a path, `FileTree.Trouble` is why that can fail.
* `FileTree.read`, `FileTree.isDirectory` and `FileTree.exists?` look.
* `FileTree.makeDirectories`, `FileTree.writeBytes` and `FileTree.writeText` change the tree.
* `Writer` lists the writers, `Store` is what they have written.
* `Delivery` is any way to write a script, `Writer.write` that of a writer.
-/

namespace ScenarioScript

/-! ## Places -/

/-- **A directory that ways start from.** -/
inductive Base where
  /-- The directory so many steps above the working directory; with no step, that directory. -/
  | above (steps : Nat)
  | root
deriving Repr, DecidableEq

/-- **A place**: a base and the names on the way down from it, innermost first. -/
structure Place where
  base : Base
  names : List Text := []
deriving Repr, DecidableEq

namespace Place

/-- The place above a place; nothing is above the root. -/
def up : Place → Place
  | ⟨base, _ :: names⟩ => ⟨base, names⟩
  | ⟨.above steps, []⟩ => ⟨.above (steps + 1), []⟩
  | ⟨.root, []⟩ => ⟨.root, []⟩

def down (place : Place) (name : Text) : Place :=
  { place with names := name :: place.names }

/-- Whether a place lies in the working directory. -/
def isInside (place : Place) : Bool :=
  place.base = .above 0

/-- **The path to a place.** -/
def toPath (place : Place) : Path :=
  match place.base with
  | .above steps => ⟨.working, List.replicate steps [char '.', char '.'] ++ place.names.reverse⟩
  | .root => ⟨.root, place.names.reverse⟩

/-- Where paths with an anchor start. -/
def ofAnchor : Anchor → Place
  | .working => ⟨.above 0, []⟩
  | .root | .doubleRoot => ⟨.root, []⟩

end Place

/-! ## Trees -/

/-- The directories that the root always has. -/
def rootDirectory : Directory :=
  ["bin", "boot", "dev", "etc", "home", "lib", "media", "mnt", "opt", "proc", "root", "run",
    "sbin", "srv", "sys", "tmp", "usr", "var"].map fun name => (name.toText, .directory [])

/-- **A tree of files**: what the bases hold.  The bases themselves are always there. -/
structure FileTree where
  /-- What each base holds, each base once; one that is not listed holds nothing. -/
  holdings : List (Base × Directory) := [(.root, rootDirectory)]
deriving Repr

namespace FileTree

def held (tree : FileTree) (base : Base) : Directory :=
  ((tree.holdings.find? fun holding => holding.1 = base).map (·.2)).getD []

/-- **What stands at a place.** -/
def lookup? (tree : FileTree) (place : Place) : Option FileEntry :=
  (tree.held place.base).lookup? place.names.reverse

/-- **Sets what stands at a place.** -/
def set (tree : FileTree) (place : Place) (entry : FileEntry) : FileTree :=
  ⟨(place.base, (tree.held place.base).set entry place.names.reverse)
    :: tree.holdings.filter fun holding => holding.1 ≠ place.base⟩

/-! ## Troubles -/

/-- **What can go wrong** with a path. -/
inductive Reason where
  | notFound
  | exists
  /-- A file stands where a directory is needed. -/
  | notDirectory
  /-- A directory stands where a file is needed. -/
  | isDirectory
  /-- A name or the whole path is too long. -/
  | nameTooLong
deriving Repr, DecidableEq

def Reason.number : Reason → Nat
  | .notFound => 2
  | .exists => 17
  | .notDirectory => 20
  | .isDirectory => 21
  | .nameTooLong => 36

def Reason.message : Reason → Text
  | .notFound => "No such file or directory".toText
  | .exists => "File exists".toText
  | .notDirectory => "Not a directory".toText
  | .isDirectory => "Is a directory".toText
  | .nameTooLong => "File name too long".toText

/-- **Why a path cannot be used.** -/
inductive Trouble where
  | at (reason : Reason) (path : Path)
  | nullCharacter
  /-- The path has half of a surrogate pair in it that stands for no byte. -/
  | unencodable (fault : Encoding.Fault)
deriving Repr, DecidableEq

/-- **The wording of a trouble.** -/
def Trouble.message : Trouble → Text
  | .at reason path =>
    "[Errno ".toText ++ Text.ofNat reason.number ++ "] ".toText ++ reason.message
      ++ ": ".toText ++ Text.quoted path.toText
  | .nullCharacter => "embedded null byte".toText
  | .unencodable fault => fault.message

/-! ## Following paths -/

/-- The greatest length of a name, in bytes. -/
def maxName : Nat := 255

/-- The greatest length of a path, in bytes. -/
def maxPath : Nat := 4095

/-- Follows names from a place at which `here` stands; `trail` holds the directories above it, up to
    its base, the nearest first.  Everything on the way has to be a directory; the last name may
    lead to nothing. -/
def follow (tree : FileTree) :
    (place : Place) → (trail : List Directory) → (here : Option FileEntry) → List Text →
      Except Reason (Place × Option FileEntry)
  | place, _, here, [] => .ok (place, here)
  | _, _, none, _ :: _ => .error .notFound
  | _, _, some (.file _), _ :: _ => .error .notDirectory
  | place, trail, some (.directory entries), name :: names =>
    if name = [char '.', char '.'] then
      match trail with
      | [] => tree.follow place.up [] (tree.lookup? place.up) names
      | above :: trail => tree.follow place.up trail (some (.directory above)) names
    else if maxName < Utf8.size name then .error .nameTooLong
    else tree.follow (place.down name) (entries :: trail) (Association.get? name entries) names

/-- **Where a path leads**, and what stands there. -/
def locate (tree : FileTree) (path : Path) : Except Trouble (Place × Option FileEntry) :=
  match Encoding.fileName path.toText with
  | .error fault => .error (.unencodable fault)
  | .ok _ =>
    if path.names.any fun name => name.contains (char '\x00') then .error .nullCharacter
    else if maxPath < Utf8.size path.toText then .error (.at .nameTooLong path)
    else
      let start := Place.ofAnchor path.anchor
      (tree.follow start [] (tree.lookup? start) path.names).mapError (.at · path)

/-- **A question about what may not be there.** A path that leads nowhere, or that cannot be a path,
    has the answer no; a path that is too long has none. -/
def ask (tree : FileTree) (path : Path) (question : FileEntry → Bool) : Except Trouble Bool :=
  match tree.locate path with
  | .ok (_, none) => .ok false
  | .ok (_, some entry) => .ok (question entry)
  | .error (.at .nameTooLong path) => .error (.at .nameTooLong path)
  | .error _ => .ok false

def exists? (tree : FileTree) (path : Path) : Except Trouble Bool :=
  tree.ask path fun _ => true

def isDirectory (tree : FileTree) (path : Path) : Except Trouble Bool :=
  tree.ask path FileEntry.isDirectory

/-- **Reading a file.** -/
def read (tree : FileTree) (path : Path) : Except Trouble Bytes :=
  match tree.locate path with
  | .error trouble => .error trouble
  | .ok (_, none) => .error (.at .notFound path)
  | .ok (_, some (.directory _)) => .error (.at .isDirectory path)
  | .ok (_, some (.file content)) => .ok content

/-! ## Changing the tree -/

/-- **Making one directory.** -/
def makeDirectory (tree : FileTree) (path : Path) : Except Trouble FileTree :=
  match tree.locate path with
  | .error trouble => .error trouble
  | .ok (_, some _) => .error (.at .exists path)
  | .ok (place, none) => .ok (tree.set place (.directory []))

/-- Making one directory, unless it is there already. -/
def ensureDirectory (tree : FileTree) (path : Path) : Except Trouble FileTree :=
  match tree.makeDirectory path with
  | .ok tree => .ok tree
  | .error .nullCharacter => .error .nullCharacter
  | .error (.unencodable fault) => .error (.unencodable fault)
  | .error trouble =>
    match tree.isDirectory path with
    | .error trouble => .error trouble
    | .ok true => .ok tree
    | .ok false => .error trouble

/-- The tree after an attempt, and what went wrong. -/
def attempt (tree : FileTree) : Except Trouble FileTree → FileTree × Option Trouble
  | .error trouble => (tree, some trouble)
  | .ok changed => (changed, none)

/-- Makes the directory that a path leads to, and those above it that are missing.  `names` are the
    names of the path backwards. -/
def makeDirectoriesFrom (tree : FileTree) (anchor : Anchor) :
    (names : List Text) → FileTree × Option Trouble
  | [] => tree.attempt (tree.ensureDirectory ⟨anchor, []⟩)
  | name :: names =>
    let path : Path := ⟨anchor, (name :: names).reverse⟩
    match tree.makeDirectory path with
    | .error (.at .notFound _) =>
      match tree.makeDirectoriesFrom anchor names with
      | (changed, some trouble) => (changed, some trouble)
      | (changed, none) => changed.attempt (changed.ensureDirectory path)
    | _ => tree.attempt (tree.ensureDirectory path)

/-- **Making a directory and all above it** that are missing.  Directories that were made before
    something went wrong stay. -/
def makeDirectories (tree : FileTree) (path : Path) : FileTree × Option Trouble :=
  tree.makeDirectoriesFrom path.anchor path.names.reverse

/-- **Writing a file**, making the directories above it first.  The result is the tree afterwards,
    and what went wrong; directories that were made stay. -/
def writeBytes (tree : FileTree) (path : Path) (content : Bytes) : FileTree × Option Trouble :=
  match tree.makeDirectories path.parent with
  | (tree, some trouble) => (tree, some trouble)
  | (tree, none) =>
    match tree.locate path with
    | .error trouble => (tree, some trouble)
    | .ok (_, some (.directory _)) => (tree, some (.at .isDirectory path))
    | .ok (place, _) => (tree.set place (.file content), none)

/-- **Why a text could not be written.** -/
inductive WriteFault where
  | unusable (trouble : Trouble)
  | encoding (fault : Encoding.Fault)
deriving Repr, DecidableEq

def WriteFault.message : WriteFault → Text
  | .unusable trouble => trouble.message
  | .encoding fault => fault.message

/-- **Writing a text to a file.** The file is opened and emptied before the text is encoded: a path
    that cannot be used is reported first, and a text that cannot be encoded leaves the file
    empty. -/
def writeText (tree : FileTree) (encoding : Encoding) (path : Path) (text : Text) :
    FileTree × Option WriteFault :=
  match encoding text with
  | .ok content =>
    let (tree, trouble) := tree.writeBytes path content
    (tree, trouble.map .unusable)
  | .error fault =>
    let (tree, trouble) := tree.writeBytes path []
    (tree, some ((trouble.map .unusable).getD (.encoding fault)))

/-! ## Listing -/

/-- **The files of a tree** and where they stand. -/
def files (tree : FileTree) : List (Place × Bytes) :=
  tree.holdings.flatMap fun (base, directory) =>
    (Directory.files [] directory).map fun (names, content) => (⟨base, names⟩, content)

/-- **The files that are new or changed** since an earlier state. -/
def changes (before after : FileTree) : List (Place × Bytes) :=
  let old := before.files
  after.files.filter fun file => !old.contains file

/-- Files with the paths that lead to them, those outside the working directory left out. -/
def listing (files : List (Place × Bytes)) : List (Text × Bytes) :=
  (files.filter fun file => file.1.isInside).map fun file => (file.1.toPath.toText, file.2)

end FileTree

/-! ## Writers -/

/-- **The writers.** -/
inductive Writer where
  /-- Keeps scripts in memory, under the path as it was given. -/
  | memory
  | failing (message : Text)
  | file (encoding : Encoding)

/-- **What has been written.** -/
structure Store where
  memory : List (Text × Text) := []
  disk : FileTree := {}
deriving Repr

/-- **A way to write a script** to a path.  The result is the store afterwards and, if something
    went wrong, the message that says what. -/
abbrev Delivery := (path script : Text) → Store → Store × Option Text

/-- **Writing a script.** -/
def Writer.write (writer : Writer) (path script : Text) (store : Store) : Store × Option Text :=
  match writer with
  | .memory => ({ store with memory := Association.put path script store.memory }, none)
  | .failing message => (store, some message)
  | .file encoding =>
    let (disk, fault) := store.disk.writeText encoding (Path.ofText path) script
    ({ store with disk }, fault.map FileTree.WriteFault.message)

end ScenarioScript
