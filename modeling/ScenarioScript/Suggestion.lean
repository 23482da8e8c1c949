import ScenarioScript.Placeholder.Registry

/-!
# Suggestions for statements with a fault

The template nearest to a statement is suggested, provided that it is near enough.  Of equally near
templates the first one wins.

How near two texts are is the number of insertions, deletions and substitutions of single letters
that lead from the one to the other.  It is computed row by row: row `i` holds the distances from
the first `i` letters of the longer text to every beginning of the other.

**Main definitions.**

* `Distance.nextRow` computes a row from the one above it.
* `distance` is the edit distance of two texts.
* `Suggester` is what suggestions are made from: a threshold and a list of templates.
* `Suggester.closest?` is the suggestion for a statement.
-/

namespace ScenarioScript

/-! ## Edit distance -/

namespace Distance

/-- The rest of a row.  `left` is the entry just computed; the row above is given from the entry
    above `left` on. -/
def rowFrom (c : Letter) : (left : Nat) → (target : Text) → (above : List Nat) → List Nat
  | left, d :: target, diagonal :: up :: above =>
    let entry := min (min (up + 1) (left + 1)) (diagonal + if c = d then 0 else 1)
    entry :: rowFrom c entry target (up :: above)
  | _, _, _ => []

/-- **The next row**, for one more letter of the source. -/
def nextRow (target : Text) (above : List Nat) (c : Letter) : List Nat :=
  match above with
  | [] => []
  | first :: _ => (first + 1) :: rowFrom c (first + 1) target above

/-- **The last row** for a source text. -/
def lastRow (source target : Text) : List Nat :=
  source.foldl (nextRow target) (List.range (target.length + 1))

/-- The distance from a text to one that is no longer. -/
def fromLonger (source target : Text) : Nat :=
  if target.length = 0 then source.length
  else (lastRow source target).getLastD 0

end Distance

/-- **The edit distance** of two texts.  The shorter one is laid along the rows. -/
def distance (source target : Text) : Nat :=
  if source.length < target.length then Distance.fromLonger target source
  else Distance.fromLonger source target

/-! ## The nearest template -/

/-- **A suggestion**: a template and its distance from the statement. -/
structure Suggestion where
  template : Text
  distance : Nat
deriving Repr, DecidableEq

/-- **What suggestions are made from.** -/
structure Suggester where
  /-- The greatest distance at which a template is still suggested. -/
  threshold : Int := 10
  /-- The templates, those to be preferred first. -/
  templates : List Text := ScenarioScript.templates
deriving Repr

namespace Suggester

/-- The better of a suggestion made before and a template. -/
def consider (suggester : Suggester) (statement : Text) (best : Option Suggestion)
    (template : Text) : Option Suggestion :=
  let found := distance statement template
  if suggester.threshold < found then best
  else
    match best with
    | none => some ⟨template, found⟩
    | some suggestion =>
      if found < suggestion.distance then some ⟨template, found⟩ else some suggestion

/-- **The first of the nearest templates** within the threshold. -/
def closest? (suggester : Suggester) (statement : Text) : Option Suggestion :=
  suggester.templates.foldl (suggester.consider statement) none

end Suggester

end ScenarioScript
