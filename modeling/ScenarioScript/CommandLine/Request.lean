import ScenarioScript.CommandLine.Arguments

/-!
# Requests

What a command line asks for.

**Main definitions.**

* `CommandLine.Request` lists the requests, `CommandLine.Invocation` adds the form of the log.
* `CommandLine.Invocation.ofArguments` reads a command line.
-/

namespace ScenarioScript

namespace CommandLine

/-- **What can be asked for.** -/
inductive Request where
  /-- Compile the scenarios of a file, to an output path or to the standard output. -/
  | compile (scenario : Text) (output : Option Text) (print verbose : Bool)
  | check (scenario : Text)
  | templates
deriving Repr, DecidableEq

/-- Whether a request asks for details in the log. -/
def Request.isVerbose : Request → Bool
  | .compile _ _ _ verbose => verbose
  | _ => false

/-- **A request** and the form of the log. -/
structure Invocation where
  jsonLogs : Bool
  request : Request
deriving Repr, DecidableEq

/-! ## Grammars -/

/-- The switch that asks for help. -/
def helpSwitch : Switch :=
  ⟨["-h".toText, "--help".toText], .help⟩

/-- The operand of the commands that read a file. -/
def scenarioOperand : Operand :=
  .word "scenario".toText

/-- **The grammar of the program.** -/
def programGrammar : Grammar :=
  { program := "cygen".toText
    switches := [helpSwitch, ⟨["--json-logs".toText], .flag⟩]
    operand := some (.command "command".toText
      ["compile".toText, "check".toText, "templates".toText]) }

/-- **The grammar of compiling.** -/
def compileGrammar : Grammar :=
  { program := "cygen compile".toText
    switches := [helpSwitch, ⟨["-o".toText, "--output".toText], .value⟩,
      ⟨["--stdout".toText], .flag⟩, ⟨["-v".toText, "--verbose".toText], .flag⟩]
    operand := some scenarioOperand }

/-- **The grammar of checking.** -/
def checkGrammar : Grammar :=
  { program := "cygen check".toText, switches := [helpSwitch], operand := some scenarioOperand }

/-- **The grammar of listing templates.** -/
def templatesGrammar : Grammar :=
  { program := "cygen templates".toText, switches := [helpSwitch], operand := none }

/-! ## Reading a command line -/

/-- The word that was taken as the operand. -/
def Taken.word (taken : Taken) : Text :=
  (taken.operand.getD []).headD []

/-- The request that a command and its arguments stand for, with the arguments left over. -/
def Request.ofCommand (command : Text) (arguments : List Text) :
    Except Stop (Request × List Text) :=
  if command = "compile".toText then
    (compileGrammar.parse arguments).map fun taken =>
      (.compile taken.word (taken.value? "--output".toText) (taken.has "--stdout".toText)
        (taken.has "--verbose".toText), taken.extras)
  else if command = "check".toText then
    (checkGrammar.parse arguments).map fun taken => (.check taken.word, taken.extras)
  else (templatesGrammar.parse arguments).map fun taken => (.templates, taken.extras)

/-- **Reading a command line.** Arguments that are left over are reported last. -/
def Invocation.ofArguments (arguments : List Text) : Except Stop Invocation :=
  match programGrammar.parse arguments with
  | .error stop => .error stop
  | .ok taken =>
    match Request.ofCommand taken.word ((taken.operand.getD []).drop 1) with
    | .error stop => .error stop
    | .ok (request, extras) =>
      match taken.extras ++ extras with
      | [] => .ok ⟨taken.has "--json-logs".toText, request⟩
      | extras => .error (.usage programGrammar.program (.unrecognized extras))

end CommandLine

end ScenarioScript
