import ScenarioScript.Text
import ScenarioScript.Text.Utf8

/-!
# Paths and file names

A path is a sequence of names, from the working directory or from the root.  Repeated slashes and
single dots mean nothing and are dropped; a double dot is kept, because what it means depends on the
directories.

The file of a scenario is named after it: the runs of small letters and digits in the lower-cased
name, joined by hyphens.

**Main definitions.**

* `Anchor` is where a path starts.
* `Path.ofText` reads a path, `Path.toText` writes it.
* `Path.child` and `Path.parent` go down and up.
* `FileName.slug` is the name of a file without the suffix, `FileName.ofScenario` the whole name.
-/

namespace ScenarioScript

/-! ## Paths -/

/-- **Where a path starts.** -/
inductive Anchor where
  | working
  | root
  /-- At the root as well, but written with two slashes. -/
  | doubleRoot
deriving Repr, DecidableEq

namespace Anchor

/-- **The anchor of a written path.** Exactly two slashes in front are kept apart from one; three
    or more are as good as one. -/
def ofText : Text → Anchor
  | char '/' :: char '/' :: char '/' :: _ => .root
  | char '/' :: char '/' :: _ => .doubleRoot
  | char '/' :: _ => .root
  | _ => .working

/-- What a path with this anchor has in front of its names. -/
def toText : Anchor → Text
  | .working => []
  | .root => [char '/']
  | .doubleRoot => [char '/', char '/']

end Anchor

/-- **A path.** -/
structure Path where
  anchor : Anchor
  /-- The names, without empty ones and single dots. -/
  names : List Text
deriving Repr, DecidableEq

namespace Path

/-- The names between slashes.  `name` is the name being read, backwards. -/
def split : (name : Text) → Text → List Text
  | name, [] => [name.reverse]
  | name, c :: rest =>
    if c = char '/' then name.reverse :: split [] rest else split (c :: name) rest

/-- Whether a name means something. -/
def isName (name : Text) : Bool :=
  !name.isEmpty && name ≠ [char '.']

/-- **Reading a path.** -/
def ofText (text : Text) : Path :=
  ⟨.ofText text, (split [] text).filter isName⟩

/-- **Writing a path**; the working directory is written as a dot. -/
def toText (path : Path) : Text :=
  if path.anchor = .working && path.names.isEmpty then [char '.']
  else path.anchor.toText ++ List.intercalate [char '/'] path.names

def child (path : Path) (name : Text) : Path :=
  { path with names := path.names ++ (split [] name).filter isName }

/-- **The path without its last name**; the working directory and the root are their own parents. -/
def parent (path : Path) : Path :=
  { path with names := path.names.dropLast }

end Path

/-! ## File names for scenarios -/

namespace FileName

/-- **The words of a text**: its longest runs of small letters and digits, from left to right.
    `word` is the run that is being read, backwards. -/
def words : (word : Text) → Text → List Text
  | word, [] => if word.isEmpty then [] else [word.reverse]
  | word, c :: rest =>
    if Text.isWordChar c then words (c :: word) rest
    else if word.isEmpty then words [] rest
    else word.reverse :: words [] rest

def defaultSuffix : Text :=
  ".spec.ts".toText

/-- **The slug of a name**; a name without any letter or digit is called `scenario`. -/
def slug (name : Text) : Text :=
  match words [] (Text.lower name) with
  | [] => "scenario".toText
  | found => List.intercalate [char '-'] found

/-- **The file name for a scenario.** -/
def ofScenario (name suffix : Text) : Text :=
  slug name ++ suffix

end FileName

end ScenarioScript
