import ScenarioScript.CommandLine.Run
import Std.Time.Format

/-!
# The program

Everything that is decided is decided by `CommandLine.run` on a tree of files.  The program takes a
picture of the files that a request may look at, carries the request out on the picture, prints what
is to be printed and writes the files that have changed.
-/

namespace ScenarioScript

namespace Program

/-- The number by which the machine says that a directory was read as a file. -/
def directoryCode : UInt32 := 21

/-- A letter as it is shown: half of a surrogate pair by its number. -/
def shownLetter : Letter → List Char
  | .char c => [c]
  | .half index => '\\' :: 'u' :: Nat.toDigits 16 (0xD800 + index)

def shown (text : Text) : String :=
  String.ofList (text.flatMap shownLetter)

/-- What stands at a path of the machine. -/
def probe (path : Path) : IO (Option FileEntry) := do
  match ← (IO.FS.readBinFile (shown path.toText)).toBaseIO with
  | .ok content => return some (.file content.toList)
  | .error (.inappropriateType _ code _) =>
    return if code = directoryCode then some (.directory []) else none
  | .error _ => return none

/-- Adds to a picture what stands at a path. -/
def photograph (tree : FileTree) (path : Path) : IO FileTree := do
  match tree.locate path with
  | .error _ => return tree
  | .ok (_, some _) => return tree
  | .ok (place, none) =>
    match ← probe path with
    | none => return tree
    | some entry => return tree.set place entry

/-- Adds to a picture all that stands on the way to a path. -/
def photographWay (tree : FileTree) (path : Path) : IO FileTree :=
  (List.range path.names.length).foldlM
    (fun tree n => photograph tree { path with names := path.names.take (n + 1) }) tree

/-- **The picture** of the files that a request may look at. -/
def picture (request : CommandLine.Request) : IO FileTree := do
  let first ← (request.paths {}).foldlM photographWay {}
  (request.paths first).foldlM photographWay first

def develop (before after : FileTree) : IO Unit :=
  (FileTree.changes before after).forM fun (place, content) => do
    let path := place.toPath
    IO.FS.createDirAll (shown path.parent.toText)
    IO.FS.writeBinFile (shown path.toText) ⟨content.toArray⟩

def variableText (name : String) : IO (Option Text) := do
  return (← IO.getEnv name).map String.toText

def environment : IO Environment := do
  return {
    indentWidth := ← variableText "CYGEN_INDENT_WIDTH"
    threshold := ← variableText "CYGEN_DIAGNOSTIC_THRESHOLD"
    referenceTypes := ← variableText "CYGEN_REFERENCE_TYPES" }

/-- The time, as log records are stamped with it. -/
def clock : IO Text := do
  let now ← Std.Time.Timestamp.now
  let date := Std.Time.DateTime.ofTimestamp now Std.Time.TimeZone.ZoneRules.UTC
  return (date.format "uuuu-MM-dd'T'HH:mm:ss.SSSSSSxxx").toText

/-- **Carries out a request** and gives the exit code. -/
def carryOut (invocation : CommandLine.Invocation) : IO UInt32 := do
  let tree ← picture invocation.request
  let world : CommandLine.World :=
    { clock := ← clock, environment := ← environment, tree }
  match CommandLine.run world invocation with
  | .error crash =>
    IO.eprintln (shown crash.message)
    return 1
  | .ok outcome =>
    IO.print (shown outcome.output)
    IO.eprint (shown outcome.errors)
    develop tree outcome.tree
    return UInt32.ofNat outcome.exitCode

end Program

end ScenarioScript

open ScenarioScript in
/-- **The program.** -/
def main (arguments : List String) : IO UInt32 := do
  match CommandLine.Invocation.ofArguments (arguments.map String.toText) with
  | .error (.help program) =>
    IO.println ("usage: " ++ Program.shown program)
    return 0
  | .error (.usage program fault) =>
    IO.eprintln (Program.shown (CommandLine.usageLine program fault))
    return 2
  | .ok invocation => Program.carryOut invocation
