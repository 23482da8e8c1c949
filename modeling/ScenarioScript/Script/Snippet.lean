import ScenarioScript.Script.Literal

/-!
# Snippets of script

A snippet is a piece of script with string literals in it.  Code stands as it is.  What a literal
says is either fixed or one of the values that are filled in when the snippet is rendered, with
fixed text around it; it always goes through `Literal.write`, so no value can become code.

**Main definitions.**

* `Wording` is what a literal says.
* `Snippet.render` writes a snippet, given the values.
* `Snippet.usesBelow` bounds the values that a snippet asks for.
-/

namespace ScenarioScript

/-- **What a string literal says.** -/
inductive Wording where
  | fixed (text : Text)
  /-- The value with the given index, between two fixed texts. -/
  | value (before : Text) (index : Nat) (after : Text)
deriving Repr, DecidableEq

namespace Wording

def only (index : Nat) : Wording :=
  .value [] index []

/-- The text of a literal once the values are known; a value that is not there is empty. -/
def fill (values : List Text) : Wording → Text
  | .fixed text => text
  | .value before index after => before ++ values.getD index [] ++ after

/-- The values asked for have indices below `count`. -/
def usesBelow (count : Nat) : Wording → Bool
  | .fixed _ => true
  | .value _ index _ => index < count

end Wording

/-- **A piece of a snippet.** -/
inductive Piece where
  | code (text : Text)
  | literal (wording : Wording)
deriving Repr, DecidableEq

def Piece.render (values : List Text) : Piece → Text
  | .code text => text
  | .literal wording => Literal.write (wording.fill values)

/-- **A snippet** is a sequence of pieces. -/
abbrev Snippet := List Piece

namespace Snippet

/-- **The text of a snippet** for the given values. -/
def render (values : List Text) (snippet : Snippet) : Text :=
  snippet.flatMap (Piece.render values)

/-- All values that the snippet asks for have indices below `count`. -/
def usesBelow (count : Nat) (snippet : Snippet) : Bool :=
  snippet.all fun
    | .code _ => true
    | .literal wording => wording.usesBelow count

end Snippet

end ScenarioScript
