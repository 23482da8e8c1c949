import ScenarioScript.Forest
import ScenarioScript.Statement.Resolution

/-!
# Lines of script from a forest

Every node gives its resolved statement as one line.  A node that owns others gives a block: its
resolved statement is the condition, what it owns is the body one step further in.

**Main definitions.**

* `Emission` is what a forest gives: lines, and the placeholders left in them.
* `indentLine` indents a line.
* `Forest.emit` gives the emission of a forest.
-/

namespace ScenarioScript

/-- **Lines of script**, and the placeholders that could not be resolved in them. -/
structure Emission where
  lines : List Text := []
  /-- The unresolved placeholders, in the order of the statements. -/
  unresolved : List Unresolved := []
deriving Repr, DecidableEq

namespace Emission

def append (first second : Emission) : Emission :=
  ⟨first.lines ++ second.lines, first.unresolved ++ second.unresolved⟩

/-- **The text of an emission**: every line ended by a line feed. -/
def text (emission : Emission) : Text :=
  Text.unlines emission.lines

end Emission

/-- **An indented line.** An empty line stays empty, and a depth below one adds nothing. -/
def indentLine (indent : Text) (depth : Int) (line : Text) : Text :=
  if line.isEmpty then [] else Text.times indent depth ++ line

mutual

def Node.emit (indent : Text) : (depth : Int) → Node → Emission
  | depth, ⟨statement, _, children⟩ =>
    let resolution := resolve statement
    if children.isEmpty then
      ⟨[indentLine indent depth resolution.text], resolution.unresolved⟩
    else
      let body := Forest.emit indent (depth + 1) children
      ⟨indentLine indent depth (Command.ifOpen resolution.text) :: body.lines
          ++ [indentLine indent depth Command.ifClose],
        resolution.unresolved ++ body.unresolved⟩

/-- **The emission of a forest**, node by node. -/
def Forest.emit (indent : Text) : (depth : Int) → Forest → Emission
  | _, [] => {}
  | depth, node :: forest => (node.emit indent depth).append (Forest.emit indent depth forest)

end

end ScenarioScript
