import ScenarioScript.Text

/-!
# Statements grouped under guards

A list of statements becomes a forest.  A guard, that is a statement `<if_…>`, owns the plain
statements that follow it up to the next guard or the closing marker `<if_end>`.  Guards do not
nest: one that comes while another is open ends it.  The closing marker itself leaves no trace.

**Main definitions.**

* `Mark` classifies statements.
* `Node` is a statement with the statements that it owns.
* `Forest.Grouping.read` adds one statement to the roots and the open guard.
* `Forest.ofStatements` groups a list of statements.
* `Forest.count` counts the nodes of a forest.
-/

namespace ScenarioScript

/-- **What a statement does to the grouping.** -/
inductive Mark where
  | opening
  | closing
  /-- Belongs to the open guard, if there is one. -/
  | plain
deriving Repr, DecidableEq

def closingMarker : Text :=
  "<if_end>".toText

/-- What every guard begins with. -/
def guardLead : Text :=
  "<if_".toText

/-- **The mark of a statement**, blanks around it ignored. -/
def Mark.of (statement : Text) : Mark :=
  let stripped := Text.strip statement
  if stripped = closingMarker then .closing
  else if Text.startsWith guardLead stripped then .opening
  else .plain

/-- **A statement and the statements that it owns.** -/
structure Node where
  statement : Text
  conditional : Bool := false
  children : List Node := []
deriving Repr, Inhabited

namespace Node

/-- A statement that owns nothing. -/
def leaf (statement : Text) : Node :=
  { statement }

/-- A guard and the plain statements that it owns. -/
def guarded (statement : Text) (body : List Text) : Node :=
  { statement, conditional := true, children := body.map leaf }

def isBlock (node : Node) : Bool :=
  !node.children.isEmpty

end Node

/-- **A forest** is a list of nodes. -/
abbrev Forest := List Node

namespace Forest

/-- **What has been grouped so far.** The open guard is the last root; it is kept apart from the
    roots before it because it still grows. -/
structure Grouping where
  closed : Forest := []
  scope : Option Node := none
deriving Repr

namespace Grouping

def roots (grouping : Grouping) : Forest :=
  grouping.closed ++ grouping.scope.toList

/-- **One more statement.** -/
def read (grouping : Grouping) (statement : Text) : Grouping :=
  match Mark.of statement, grouping.scope with
  | .closing, _ => { closed := grouping.roots }
  | .opening, _ => { closed := grouping.roots, scope := some (Node.guarded statement []) }
  | .plain, some guard =>
    { grouping with
      scope := some { guard with children := guard.children ++ [Node.leaf statement] } }
  | .plain, none => { grouping with closed := grouping.closed ++ [Node.leaf statement] }

end Grouping

/-- **The forest of a list of statements**, read from left to right. -/
def ofStatements (statements : List Text) : Forest :=
  (statements.foldl Grouping.read {}).roots

end Forest

mutual

/-- The number of nodes of a tree. -/
def Node.count : Node → Nat
  | ⟨_, _, children⟩ => 1 + Forest.count children

/-- **The number of nodes of a forest**, owned ones included. -/
def Forest.count : Forest → Nat
  | [] => 0
  | node :: forest => node.count + Forest.count forest

end

end ScenarioScript
