import ScenarioScript.Forest.Emission
import ScenarioScript.Log
import ScenarioScript.Metrics
import ScenarioScript.Scenario
import ScenarioScript.Settings
import ScenarioScript.Statement.Validation

/-!
# Compiling a scenario

A scenario becomes one test case in one test suite.  All its statements have to be accepted before
anything is generated; then the given statement is resolved, and the actions and outcomes are
grouped and laid out.

Compiling is a function.  What it leaves behind in the log and the metrics is a `Report` that is
computed from its result.

**Main definitions.**

* `Compilation` holds the parts of a compiled scenario, `Compilation.script` lays them out.
* `Scenario.compile` compiles a scenario, `compile` any JSON value.
* `Report` is what a run leaves behind, `Scenario.report` that of a scenario.
-/

namespace ScenarioScript

/-! ## Scripts -/

/-- **The result of compiling a scenario.** -/
structure Compiled where
  name : Text
  script : Text
  warnings : List Unresolved
  /-- The number of statements among actions and outcomes that the script has. -/
  nodeCount : Nat
deriving Repr, DecidableEq

/-- **The parts of a compiled scenario.** -/
structure Compilation where
  scenario : Scenario
  given : Resolution
  actions : Forest
  outcomes : Forest
  actionCode : Emission
  outcomeCode : Emission
deriving Repr

namespace Compilation

/-- The depth of the statements inside test suite and test case. -/
def bodyDepth : Int := 2

def of (settings : Settings) (scenario : Scenario) : Compilation :=
  let actions := Forest.ofStatements scenario.actions
  let outcomes := Forest.ofStatements scenario.outcomes
  { scenario
    given := resolve scenario.given
    actions
    outcomes
    actionCode := Forest.emit settings.indent bodyDepth actions
    outcomeCode := Forest.emit settings.indent bodyDepth outcomes }

/-- **The placeholders left unresolved**, in the order of the statements. -/
def warnings (compilation : Compilation) : List Unresolved :=
  compilation.given.unresolved ++ compilation.actionCode.unresolved
    ++ compilation.outcomeCode.unresolved

/-- The number of nodes in both forests. -/
def nodeCount (compilation : Compilation) : Nat :=
  Forest.count compilation.actions + Forest.count compilation.outcomes

/-- **The lines of the script.** -/
def lines (settings : Settings) (compilation : Compilation) : List Text :=
  let indent := settings.indent
  (if settings.referenceTypes then [Command.referenceDirective] else [])
    ++ [(Command.describeOpen compilation.scenario.name).render [],
      indent ++ (Command.itOpen compilation.scenario.given).render [],
      indentLine indent bodyDepth compilation.given.text, []]
    ++ compilation.actionCode.lines ++ [[]] ++ compilation.outcomeCode.lines
    ++ [indent ++ Command.callbackClose, Command.callbackClose]

/-- **The script.** -/
def script (settings : Settings) (compilation : Compilation) : Text :=
  Text.unlines (compilation.lines settings)

def result (settings : Settings) (compilation : Compilation) : Compiled :=
  ⟨compilation.scenario.name, compilation.script settings, compilation.warnings,
    compilation.nodeCount⟩

end Compilation

/-! ## Compiling -/

/-- **Why a value cannot be compiled.** -/
inductive CompileFault where
  | malformed (fault : Scenario.StructureFault)
  | rejected (fault : SyntaxFault)
deriving Repr, DecidableEq

/-- **The wording of a fault.** -/
def CompileFault.message : CompileFault → Text
  | .malformed fault => fault.message
  | .rejected fault => fault.message

/-- What suggestions are made from under given settings. -/
def Settings.suggester (settings : Settings) : Suggester :=
  { threshold := settings.threshold }

namespace Scenario

/-- The parts of a scenario, if all its statements are accepted. -/
def elaborate (scenario : Scenario) (settings : Settings) : Except SyntaxFault Compilation :=
  match settings.suggester.validateAll (scenario.statements.map (·.2)) with
  | .error fault => .error fault
  | .ok () => .ok (Compilation.of settings scenario)

/-- **Compiling a scenario.** -/
def compile (scenario : Scenario) (settings : Settings) : Except SyntaxFault Compiled :=
  (scenario.elaborate settings).map (Compilation.result settings)

end Scenario

/-- **Compiling a value.** -/
def compile (settings : Settings) (value : Json) : Except CompileFault Compiled :=
  match Scenario.load value with
  | .error fault => .error (.malformed fault)
  | .ok scenario => (scenario.compile settings).mapError .rejected

/-! ## Reports -/

def compilerLogger : Text :=
  "cygen.compiler".toText

def compilerRecord (level : Int) (message : Text) : Log.Record :=
  { logger := compilerLogger, level, message }

/-- **What a run leaves behind** in the log and in the metrics. -/
structure Report where
  records : List Log.Record := []
  measurements : List Measurement := []
deriving Repr

def Report.append (first second : Report) : Report :=
  ⟨first.records ++ second.records, first.measurements ++ second.measurements⟩

namespace Compilation

def forestsMessage (compilation : Compilation) : Text :=
  "Built forests: when=".toText ++ Text.ofNat compilation.actions.length
    ++ " roots, then=".toText ++ Text.ofNat compilation.outcomes.length ++ " roots".toText

/-- The message about a placeholder that is left. -/
def warningMessage (warning : Unresolved) : Text :=
  "Unresolved placeholder ".toText ++ warning.text ++ " in statement \"".toText
    ++ warning.statement ++ [char '"']

def summary (compilation : Compilation) : Log.Record :=
  { logger := compilerLogger
    level := Log.info
    message := "Compiled with ".toText ++ Text.ofNat compilation.warnings.length
      ++ " unresolved placeholder(s)".toText
    extra :=
      [("statements".toText, .integer compilation.scenario.statementCount),
        ("nodes".toText, .integer compilation.nodeCount),
        ("unresolved".toText, .integer compilation.warnings.length)] }

/-- **The report of a successful run.** -/
def report (compilation : Compilation) : Report :=
  { records :=
      compilerRecord Log.debug compilation.forestsMessage
        :: compilation.warnings.map (fun warning =>
          compilerRecord Log.warning (warningMessage warning))
        ++ [compilation.summary]
    measurements :=
      [.compiled, .unresolved compilation.warnings.length,
        .statements compilation.scenario.statementCount] }

end Compilation

/-- **The report of compiling a scenario.** -/
def Scenario.report (scenario : Scenario) (settings : Settings) : Report :=
  match scenario.elaborate settings with
  | .error fault =>
    { records := [compilerRecord Log.warning ("Rejected: ".toText ++ fault.message)]
      measurements := [.failed] }
  | .ok compilation => compilation.report

end ScenarioScript
