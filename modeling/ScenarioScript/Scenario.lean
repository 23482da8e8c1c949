import ScenarioScript.Json
import ScenarioScript.Text

/-!
# Scenarios

A scenario says what is given, what is done and what holds then.  As a JSON value it is an object
with a name, a given statement, and one or more statements under `when` and `then`; a single
statement may stand there without a list.  All problems of an object are reported together, field by
field, so that none hides another.

**Main definitions.**

* `Scenario` is a scenario, `Scenario.statements` lists its statements with their sections.
* `Scenario.Issue` is what can be wrong with a value, `Scenario.Problem` adds where.
* `Scenario.StructureFault` is why a value is no scenario.
* `Scenario.load` reads one scenario, `Scenario.loadAll` one or a list of them.
-/

namespace ScenarioScript

/-- **The sections of a scenario.** -/
inductive Section where
  | given
  | action
  | outcome
deriving Repr, DecidableEq

/-- The key of a section in a scenario file. -/
def Section.key : Section → Text
  | .given => "given".toText
  | .action => "when".toText
  | .outcome => "then".toText

/-- **A scenario.** -/
structure Scenario where
  name : Text
  /-- The statement that sets the scene, which is also the title of the test case. -/
  given : Text
  actions : List Text
  outcomes : List Text
deriving Repr, DecidableEq

namespace Scenario

/-- **All statements** with their sections: the given one, then the actions, then the outcomes. -/
def statements (scenario : Scenario) : List (Section × Text) :=
  (.given, scenario.given) :: scenario.actions.map (.action, ·)
    ++ scenario.outcomes.map (.outcome, ·)

def statementCount (scenario : Scenario) : Nat :=
  1 + scenario.actions.length + scenario.outcomes.length

theorem length_statements (scenario : Scenario) :
    scenario.statements.length = scenario.statementCount := by
  simp [statements, statementCount]
  omega

/-! ## Faults -/

/-- **What can be wrong with a value.** -/
inductive Issue where
  | missing
  | notString
  /-- The value is neither a list nor a string. -/
  | notList
  /-- The string has no letter but blanks. -/
  | blank
  | empty
deriving Repr, DecidableEq

def Issue.message : Issue → Text
  | .missing => "Field required".toText
  | .notString => "Input should be a valid string".toText
  | .notList => "Input should be a valid list".toText
  | .blank => "Value error, must not be empty".toText
  | .empty => "Value error, must have at least one item".toText

/-- **An issue and where it is**: a field, or an item of a field by its index. -/
structure Problem where
  field : Text
  /-- The index of the item, if the issue is one of an item. -/
  index : Option Nat
  issue : Issue
deriving Repr, DecidableEq

def Problem.message (problem : Problem) : Text :=
  let place := match problem.index with
    | none => problem.field
    | some index => problem.field ++ char '.' :: Text.ofNat index
  place ++ ": ".toText ++ problem.issue.message

/-- **Why a value is no scenario.** -/
inductive StructureFault where
  | notObject
  | invalid (problems : List Problem)
  | noScenarios
deriving Repr, DecidableEq

/-- **The wording of a structure fault.** -/
def StructureFault.message : StructureFault → Text
  | .notObject => "A scenario must have \"given\", \"when\", and \"then\" properties".toText
  | .invalid problems =>
    "Invalid scenario: ".toText ++ List.intercalate "; ".toText (problems.map Problem.message)
  | .noScenarios => "No scenarios provided".toText

/-! ## Fields -/

def text : Json → Except Issue Text
  | .string value => .ok value
  | _ => .error .notString

/-- The text of a string that is not blank. -/
def nonBlank (value : Json) : Except Issue Text :=
  match text value with
  | .error issue => .error issue
  | .ok value => if Text.isBlankOnly value then .error .blank else .ok value

/-- **A field with one text.** -/
def loadText (fields : List (Text × Json)) (field : Text) : Except (List Problem) Text :=
  match Association.get? field fields with
  | none => .error [⟨field, none, .missing⟩]
  | some value =>
    match nonBlank value with
    | .error issue => .error [⟨field, none, issue⟩]
    | .ok value => .ok value

/-- The problems of the items of a list, the first of which has the given index. -/
def itemProblems (field : Text) : (index : Nat) → List Json → List Problem
  | _, [] => []
  | index, item :: items =>
    match text item with
    | .error issue => ⟨field, some index, issue⟩ :: itemProblems field (index + 1) items
    | .ok _ => itemProblems field (index + 1) items

/-- The texts among the items of a list. -/
def itemTexts (items : List Json) : List Text :=
  items.filterMap fun item => (text item).toOption

/-- The items that a value stands for: those of a list, or the string itself. -/
def itemsOf? : Json → Option (List Json)
  | .array items => some items
  | .string value => some [.string value]
  | _ => none

/-- **A field with one text or several.** -/
def loadTexts (fields : List (Text × Json)) (field : Text) : Except (List Problem) (List Text) :=
  match Association.get? field fields with
  | none => .error [⟨field, none, .missing⟩]
  | some value =>
    match itemsOf? value with
    | none => .error [⟨field, none, .notList⟩]
    | some items =>
      match itemProblems field 0 items with
      | [] =>
        if items.isEmpty then .error [⟨field, none, .empty⟩] else .ok (itemTexts items)
      | problems => .error problems

/-- The problems of a field; none if it was read. -/
def problemsOf {α : Type} : Except (List Problem) α → List Problem
  | .error problems => problems
  | .ok _ => []

/-! ## Loading -/

/-- **The scenario of an object**, or all problems of its four fields. -/
def ofFields (fields : List (Text × Json)) : Except (List Problem) Scenario :=
  let name := loadText fields "name".toText
  let given := loadText fields Section.given.key
  let actions := loadTexts fields Section.action.key
  let outcomes := loadTexts fields Section.outcome.key
  match name, given, actions, outcomes with
  | .ok name, .ok given, .ok actions, .ok outcomes => .ok ⟨name, given, actions, outcomes⟩
  | name, given, actions, outcomes =>
    .error (problemsOf name ++ problemsOf given ++ problemsOf actions ++ problemsOf outcomes)

/-- **Loading a scenario.** -/
def load : Json → Except StructureFault Scenario
  | .object fields => (ofFields fields).mapError .invalid
  | _ => .error .notObject

/-- Loads the items of a list and stops at the first that is no scenario. -/
def loadEach : List Json → Except StructureFault (List Scenario)
  | [] => .ok []
  | item :: items =>
    match load item with
    | .error fault => .error fault
    | .ok scenario => (loadEach items).map (scenario :: ·)

/-- **Loading scenarios**: from a list that is not empty, or a single one. -/
def loadAll : Json → Except StructureFault (List Scenario)
  | .array [] => .error .noScenarios
  | .array items => loadEach items
  | value => (load value).map ([·])

end Scenario

end ScenarioScript
