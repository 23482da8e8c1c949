import ScenarioScript.Compilation
import ScenarioScript.Log
import ScenarioScript.Output.FileTree

/-!
# Sessions

A session is a sequence of steps with one compiler: compiling, writing, logging, and looking at what
has accumulated.  Its state is everything that one step leaves for the next.

**Main definitions.**

* `Session` is the state.
* `Session.compileScenario` and `Session.writeScenario` compile a scenario, the second one also
  writes it.
* `Session.Call` is a call of the compiler, `Session.call` answers it.
* `Session.Step` lists the steps, `Session.step` takes one.
-/

namespace ScenarioScript

/-- **The outcome of compiling and writing a scenario.** -/
structure WriteResult where
  path : Text
  /-- The compiled scenario, or why it could not be written. -/
  outcome : Except Text Compiled

/-- **The state of a session.** -/
structure Session where
  settings : Settings := {}
  clock : Text := []
  metrics : Metrics := {}
  context : Log.Context := {}
  sink : Option Log.Sink := none
  store : Store := {}
deriving Repr

namespace Session

/-! ## Log and metrics -/

/-- **The lines that records leave in the log**, attributed to the current scenario. -/
def logged (session : Session) (records : List Log.Record) : Text :=
  match session.sink with
  | none => []
  | some sink =>
    records.flatMap fun record => sink.write session.clock (session.context.attributed record)

/-- **A report made while a scenario is current**: the state afterwards and the lines in the log. -/
def reportWithin (session : Session) (name : Text) (report : Report) : Session × Text :=
  let inside := { session with context := session.context.enter (some name) }
  let lines := inside.logged report.records
  ({ inside with
    metrics := inside.metrics.recordAll report.measurements
    context := inside.context.exit }, lines)

/-! ## Scenarios -/

/-- **Compiling a scenario.** -/
def compileScenario (session : Session) (scenario : Scenario) :
    Session × Except SyntaxFault Compiled × Text :=
  let (after, lines) :=
    session.reportWithin scenario.name (scenario.report session.settings)
  (after, scenario.compile session.settings, lines)

/-- The report of an attempt to write a script. -/
def writeReport (path : Text) : Option Text → Report
  | none =>
    { records := [compilerRecord Log.info ("Spec file successfully written to ".toText ++ path)] }
  | some message =>
    { records := [compilerRecord Log.error ("Error generating spec file: ".toText ++ message)]
      measurements := [.writeFailed] }

/-- **Compiling a scenario and writing its script.** A scenario that is refused is not written. -/
def writeScenario (session : Session) (scenario : Scenario) (path : Text) (delivery : Delivery) :
    Session × Except SyntaxFault WriteResult × Text :=
  match session.compileScenario scenario with
  | (after, .error fault, lines) => (after, .error fault, lines)
  | (after, .ok compiled, lines) =>
    let (store, failure) := delivery path compiled.script after.store
    let (final, more) :=
      { after with store }.reportWithin compiled.name (writeReport path failure)
    let outcome := match failure with
      | none => .ok compiled
      | some message => .error message
    (final, .ok ⟨path, outcome⟩, lines ++ more)

/-- The state after a value that is no scenario. -/
def refused (session : Session) : Session :=
  { session with metrics := session.metrics.record .failed }

/-! ## Calls -/

/-- **A call of the compiler.** -/
inductive Call where
  | compile (value : Json)
  | write (value : Json) (path : Text) (delivery : Delivery)

/-- **What a call or another step answers.** -/
inductive Answer where
  | nothing
  | compiled (result : Except CompileFault Compiled)
  | written (result : Except CompileFault WriteResult)
  | metrics (metrics : Metrics)
  | store (store : Store)

/-- **Answering a call**: the state afterwards, the answer, and the lines that the call leaves in
    the log. -/
def call (session : Session) : Call → Session × Answer × Text
  | .compile value =>
    match Scenario.load value with
    | .error fault => (session.refused, .compiled (.error (.malformed fault)), [])
    | .ok scenario =>
      let (after, result, lines) := session.compileScenario scenario
      (after, .compiled (result.mapError .rejected), lines)
  | .write value path delivery =>
    match Scenario.load value with
    | .error fault => (session.refused, .written (.error (.malformed fault)), [])
    | .ok scenario =>
      let (after, result, lines) := session.writeScenario scenario path delivery
      (after, .written (result.mapError .rejected), lines)

/-! ## Steps -/

/-- **The steps of a session.** -/
inductive Step where
  | compile (value : Json)
  | write (value : Json) (path : Text) (writer : Writer)
  | configure (sink : Log.Sink)
  | log (record : Log.Record)
  | setName (name : Option Text)
  | enter (name : Option Text)
  | exit
  | readMetrics
  | resetMetrics
  | readStore

/-- **Taking a step**: the state afterwards, the answer, and the lines that the step leaves in the
    log. -/
def step (session : Session) : Step → Session × Answer × Text
  | .compile value => session.call (.compile value)
  | .write value path writer => session.call (.write value path writer.write)
  | .configure sink => ({ session with sink := some sink }, .nothing, [])
  | .log record => (session, .nothing, session.logged [record])
  | .setName name => ({ session with context := session.context.setName name }, .nothing, [])
  | .enter name => ({ session with context := session.context.enter name }, .nothing, [])
  | .exit => ({ session with context := session.context.exit }, .nothing, [])
  | .readMetrics => (session, .metrics session.metrics, [])
  | .resetMetrics => ({ session with metrics := {} }, .nothing, [])
  | .readStore => (session, .store session.store, [])

end Session

end ScenarioScript
