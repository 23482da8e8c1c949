import ScenarioScript.CommandLine.Request
import ScenarioScript.Json.Reader
import ScenarioScript.Output.Path
import ScenarioScript.Session

/-!
# Running a request

A request is carried out on a tree of files.  The outcome is what is printed, what goes to the error
output, the exit code and the tree afterwards.  Printing can fail, because the encoding of the
standard output need not have every letter: then the run ends at once, with what was printed and
written up to there.

**Main definitions.**

* `CommandLine.Outcome` is the outcome of a run, `CommandLine.Crash` an end without one.
* `CommandLine.printAll` prints texts as far as they can be encoded.
* `CommandLine.readScenarios` reads a scenario file.
* `CommandLine.Request.paths` lists the paths that a request may look at.
* `CommandLine.runCompile`, `CommandLine.runCheck` and `CommandLine.runTemplates` carry out the
  requests, `CommandLine.run` any of them.
-/

namespace ScenarioScript

namespace CommandLine

/-! ## Outcomes -/

/-- **The outcome of a run.** -/
structure Outcome where
  exitCode : Nat
  output : Text
  errors : Text
  tree : FileTree
deriving Repr

/-- **An end without an outcome.** -/
inductive Crash where
  | unusable (trouble : FileTree.Trouble)
  | settings (fault : SettingsFault)
  /-- The last words of a run cannot be printed. -/
  | unprintable (fault : Encoding.Fault)
deriving Repr, DecidableEq

def Crash.message : Crash → Text
  | .unusable trouble => trouble.message
  | .settings fault => fault.message
  | .unprintable fault => fault.message

/-- **Where a run happens**: the time, the environment, the files, and the encoding of what is
    printed. -/
structure World where
  clock : Text := []
  environment : Environment := {}
  tree : FileTree := {}
  console : Encoding := .utf8

/-! ## Printing -/

def line (text : Text) : Text :=
  text ++ [char '\n']

/-- **Printing texts**, one after the other.  A text that cannot be encoded is not printed, and
    neither is anything behind it; the result is what was printed, and the fault. -/
def printAll (console : Encoding) : List Text → Text × Option Encoding.Fault
  | [] => ([], none)
  | text :: rest =>
    match console text with
    | .error fault => ([], some fault)
    | .ok _ =>
      let (printed, fault) := printAll console rest
      (text ++ printed, fault)

/-- The line about a run that could not go on. -/
def errorLine (message : Text) : Text :=
  line ("[ERROR] Compilation failed: ".toText ++ message)

/-- **The end of a run** that printed something: it fails if not all could be printed. -/
def conclude (exitCode : Nat) (log : Text) (tree : FileTree) :
    Text × Option Encoding.Fault → Outcome
  | (printed, none) => ⟨exitCode, printed, log, tree⟩
  | (printed, some fault) => ⟨1, printed, log ++ errorLine fault.message, tree⟩

/-! ## Reading -/

/-- **Why there is nothing to work on.** -/
inductive InputFault where
  | notFound (path : Text)
  | invalid (message : Text)
  | fatal (crash : Crash)
deriving Repr, DecidableEq

/-- The end of a run that has nothing to work on. -/
def InputFault.outcome (world : World) : InputFault → Except Crash Outcome
  | .notFound path =>
    match printAll world.console [line ("[ERROR] Scenario file not found: ".toText ++ path)] with
    | (printed, none) => .ok ⟨1, printed, [], world.tree⟩
    | (_, some fault) => .error (.unprintable fault)
  | .invalid message => .ok ⟨1, [], errorLine message, world.tree⟩
  | .fatal crash => .error crash

/-- The scenarios in the bytes of a file. -/
def scenariosOf (bytes : Bytes) : Except Text (List Scenario) :=
  match Utf8.decode bytes with
  | .error fault => .error (fault.message bytes.length)
  | .ok text =>
    let document := Text.unifyLineEnds text
    match Json.read document with
    | .error fault => .error (fault.message document)
    | .ok value => (Scenario.loadAll value).mapError (·.message)

/-- **The scenarios of a file.** -/
def readScenarios (tree : FileTree) (path : Text) : Except InputFault (List Scenario) :=
  let source := Path.ofText path
  match tree.exists? source with
  | .error trouble => .error (.fatal (.unusable trouble))
  | .ok false => .error (.notFound path)
  | .ok true =>
    match tree.read source with
    | .error trouble => .error (.fatal (.unusable trouble))
    | .ok bytes => (scenariosOf bytes).mapError .invalid

/-- **The settings of the environment.** -/
def readSettings (environment : Environment) : Except InputFault Settings :=
  (Settings.ofEnvironment environment).mapError fun
    | .notInteger fault => .invalid (SettingsFault.notInteger fault).message
    | fault => .fatal (.settings fault)

/-- **What a run works on**: the scenarios, then the settings. -/
def readInput (world : World) (path : Text) : Except InputFault (List Scenario × Settings) :=
  match readScenarios world.tree path with
  | .error fault => .error fault
  | .ok scenarios => (readSettings world.environment).map (scenarios, ·)

/-! ## Compiling -/

/-- **Where the script of a scenario goes.** An output path is a directory if there are many
    scenarios, if a directory is there, or if it ends in a slash. -/
def outputPath (tree : FileTree) (output : Option Text) (name : Text) (many : Bool) :
    Except Crash Path :=
  let fileName := FileName.ofScenario name FileName.defaultSuffix
  match output with
  | none => .ok (Path.ofText fileName)
  | some output =>
    let target := Path.ofText output
    if many then .ok (target.child fileName)
    else
      match tree.isDirectory target with
      | .error trouble => .error (.unusable trouble)
      | .ok isDirectory =>
        if isDirectory || output.getLast? = some (char '/')
            || output.getLast? = some (char '\\') then
          .ok (target.child fileName)
        else .ok target

/-- **What compiling one scenario gives**: the session afterwards, the texts to be printed, the log,
    and whether the scenario failed. -/
structure Turn where
  session : Session
  prints : List Text
  log : Text
  failed : Bool

/-- The line about a scenario that failed. -/
def failLine (name message : Text) : Text :=
  line ("[FAIL] ".toText ++ name ++ ": ".toText ++ message)

def printTurn (session : Session) (scenario : Scenario) : Turn :=
  match session.compileScenario scenario with
  | (after, .error fault, log) => ⟨after, [failLine scenario.name fault.message], log, true⟩
  | (after, .ok compiled, log) => ⟨after, [compiled.script], log, false⟩

/-- The lines about a scenario that was written. -/
def passLines (compiled : Compiled) (path : Text) (verbose : Bool) : List Text :=
  line ("[PASS] ".toText ++ compiled.name ++ " -> ".toText ++ path)
    :: if verbose then
      compiled.warnings.map fun warning => line ("  - Unresolved: ".toText ++ warning.text)
    else []

def writeTurn (session : Session) (scenario : Scenario) (path : Text) (verbose : Bool) : Turn :=
  match session.writeScenario scenario path (Writer.write (.file .utf8)) with
  | (after, .error fault, log) => ⟨after, [failLine scenario.name fault.message], log, true⟩
  | (after, .ok ⟨_, .error message⟩, log) =>
    ⟨after, [failLine scenario.name message], log, true⟩
  | (after, .ok ⟨path, .ok compiled⟩, log) =>
    ⟨after, passLines compiled path verbose, log, false⟩

/-- **One scenario.** -/
def turn (session : Session) (output : Option Text) (print verbose many : Bool)
    (scenario : Scenario) : Except Crash Turn :=
  if print then .ok (printTurn session scenario)
  else
    (outputPath session.store.disk output scenario.name many).map fun path =>
      writeTurn session scenario path.toText verbose

/-- **What a run of turns gives**: the session afterwards, what was printed and why no more, the
    log, and whether a scenario failed. -/
structure Progress where
  session : Session
  printed : Text × Option Encoding.Fault
  log : Text
  failed : Bool

/-- **All scenarios**, one after the other; a scenario that fails does not stop the next, but a text
    that cannot be printed does. -/
def turns (console : Encoding) (output : Option Text) (print verbose many : Bool) :
    Session → List Scenario → Except Crash Progress
  | session, [] => .ok ⟨session, ([], none), [], false⟩
  | session, scenario :: rest =>
    match turn session output print verbose many scenario with
    | .error crash => .error crash
    | .ok first =>
      match printAll console first.prints with
      | (printed, some fault) => .ok ⟨first.session, (printed, some fault), first.log, first.failed⟩
      | (printed, none) =>
        (turns console output print verbose many first.session rest).map fun later =>
          ⟨later.session, (printed ++ later.printed.1, later.printed.2), first.log ++ later.log,
            first.failed || later.failed⟩

/-- **Carrying out a request to compile.** -/
def runCompile (world : World) (sink : Log.Sink) (path : Text) (output : Option Text)
    (print verbose : Bool) : Except Crash Outcome :=
  match readInput world path with
  | .error fault => fault.outcome world
  | .ok (scenarios, settings) =>
    let session : Session :=
      { settings, clock := world.clock, sink := some sink, store := { disk := world.tree } }
    (turns world.console output print verbose (1 < scenarios.length) session scenarios).map
      fun all =>
        conclude (if all.failed then 1 else 0) all.log all.session.store.disk all.printed

/-- **The paths that a request may look at**, those that depend on the scenarios included. -/
def Request.paths (tree : FileTree) : Request → List Path
  | .templates => []
  | .check path => [Path.ofText path]
  | .compile path output _ _ =>
    let scenarios := (readScenarios tree path).toOption.getD []
    let names := scenarios.map fun scenario =>
      FileName.ofScenario scenario.name FileName.defaultSuffix
    let target := Path.ofText (output.getD [])
    Path.ofText path :: target :: names.map target.child

/-! ## Checking -/

/-- The line about one fault, with what may have been meant. -/
def faultLine (fault : SyntaxFault) : Text :=
  let hint := match fault.suggestion with
    | some suggestion => " (did you mean \"".toText ++ suggestion.template ++ "\"?)".toText
    | none => []
  line ("  - ".toText ++ fault.tokenMessage ++ hint)

/-- The lines about a statement; none if it is accepted. -/
def statementLines (suggester : Suggester) (scenario : Scenario) (part : Section)
    (statement : Text) : List Text :=
  match suggester.check statement with
  | [] => []
  | faults =>
    line ("[FAIL] ".toText ++ scenario.name ++ " (".toText ++ part.key ++ "): ".toText
      ++ statement) :: faults.map faultLine

/-- The lines about the statements of a scenario. -/
def scenarioLines (suggester : Suggester) (scenario : Scenario) : List Text :=
  scenario.statements.flatMap fun (part, statement) =>
    statementLines suggester scenario part statement

/-- Whether all statements of a scenario are accepted. -/
def isAccepted (suggester : Suggester) (scenario : Scenario) : Bool :=
  scenario.statements.all fun (_, statement) => (suggester.check statement).isEmpty

/-- The line about scenarios that are all accepted. -/
def validLine (count : Nat) : Text :=
  line ("[PASS] ".toText ++ Text.ofNat count ++ " scenario(s) valid".toText)

/-- **Carrying out a request to check.** -/
def runCheck (world : World) (path : Text) : Except Crash Outcome :=
  match readInput world path with
  | .error fault => fault.outcome world
  | .ok (scenarios, settings) =>
    let suggester := settings.suggester
    let lines := scenarios.flatMap (scenarioLines suggester)
    if scenarios.all (isAccepted suggester) then
      let shown := printAll world.console (lines ++ [validLine scenarios.length])
      .ok (conclude 0 [] world.tree shown)
    else .ok (conclude 1 [] world.tree (printAll world.console lines))

/-! ## Listing -/

def familyLines (family : Family) : List Text :=
  line (family.tag.word ++ ": ".toText ++ family.description)
    :: family.templates.map fun template => line ("  ".toText ++ template)

/-- **Carrying out a request to list the templates.** -/
def runTemplates (world : World) : Outcome :=
  conclude 0 [] world.tree (printAll world.console (registry.flatMap familyLines))

/-! ## Running -/

/-- **Carrying out a request.** -/
def run (world : World) (invocation : Invocation) : Except Crash Outcome :=
  let sink : Log.Sink :=
    { level := if invocation.request.isVerbose then Log.debug else Log.warning
      json := invocation.jsonLogs }
  match invocation.request with
  | .compile path output print verbose => runCompile world sink path output print verbose
  | .check path => runCheck world path
  | .templates => .ok (runTemplates world)

end CommandLine

end ScenarioScript
