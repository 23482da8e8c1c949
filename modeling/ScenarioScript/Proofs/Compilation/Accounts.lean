import ScenarioScript.Compilation
import ScenarioScript.Proofs.Forest.Traversal
import ScenarioScript.Proofs.Statement.Faults

/-!
# What a compiled scenario holds

A compiled scenario can be accounted for statement by statement, without the forests that compiling
goes through.

* `Scenario.page` — the script, line by line.
* `Scenario.Accounts` — name, script, warnings and number of nodes, each said from the scenario
  alone.
* `Scenario.result_iff_accounts` — what compiling gives for a scenario is what is accounted for.
* `Scenario.compile_eq_error_iff` — a scenario is refused for the first fault of its statements.
* `compile_eq_ok_iff_accounts` — **when compiling succeeds and what it gives**: the value is a
  scenario, all its statements are accepted, and the result is accounted for.
-/

namespace ScenarioScript

/-! ## Accounts -/

namespace Scenario

def line (content : Text) : Text :=
  content ++ [char '\n']

/-- **The page of a scenario**: the lines around the test case, the given statement, and the code of
    actions and outcomes two steps further in. -/
def page (settings : Settings) (scenario : Scenario) : Text :=
  (if settings.referenceTypes then line Command.referenceDirective else [])
    ++ line ((Command.describeOpen scenario.name).render [])
    ++ line (settings.indent ++ (Command.itOpen scenario.given).render [])
    ++ line (if (resolve scenario.given).text = [] then []
        else settings.indent ++ settings.indent ++ (resolve scenario.given).text)
    ++ line []
    ++ (Forest.emit settings.indent 2 (Forest.ofStatements scenario.actions)).text
    ++ line []
    ++ (Forest.emit settings.indent 2 (Forest.ofStatements scenario.outcomes)).text
    ++ line (settings.indent ++ Command.callbackClose)
    ++ line Command.callbackClose

/-- **A result is accounted for.** -/
structure Accounts (settings : Settings) (scenario : Scenario) (compiled : Compiled) : Prop where
  name : compiled.name = scenario.name
  /-- The nodes are the actions and outcomes that are no closing markers. -/
  nodeCount : compiled.nodeCount = (kept scenario.actions).length + (kept scenario.outcomes).length
  /-- The warnings are those of the given statement, whatever it is, and of the kept ones. -/
  warnings : compiled.warnings
    = (scenario.given :: kept scenario.actions ++ kept scenario.outcomes).flatMap
        fun statement => (resolve statement).unresolved
  script : compiled.script = scenario.page settings

/-- Every statement of the scenario is accepted. -/
def Accepted (settings : Settings) (scenario : Scenario) : Prop :=
  ∀ statement ∈ scenario.given :: scenario.actions ++ scenario.outcomes,
    settings.suggester.validate statement = .ok ()

end Scenario

/-! ## The parts -/

lemma Text.unlines_append (first second : List Text) :
    Text.unlines (first ++ second) = Text.unlines first ++ Text.unlines second :=
  List.flatMap_append

lemma Text.unlines_cons (content : Text) (rest : List Text) :
    Text.unlines (content :: rest) = Scenario.line content ++ Text.unlines rest :=
  List.flatMap_cons

/-- Two steps in, a line is indented twice. -/
lemma indentLine_two (indent content : Text) :
    indentLine indent 2 content = if content = [] then [] else indent ++ indent ++ content := by
  have htimes : Text.times indent 2 = indent ++ indent := by
    show (List.replicate 2 indent).flatten = indent ++ indent
    simp [List.replicate]
  rw [indentLine, htimes]
  simp only [List.isEmpty_iff]

lemma Compilation.script_of (settings : Settings) (scenario : Scenario) :
    (Compilation.of settings scenario).script settings = scenario.page settings := by
  have hreference :
      Text.unlines (if settings.referenceTypes then [Command.referenceDirective] else [])
        = if settings.referenceTypes then Scenario.line Command.referenceDirective else [] := by
    split
    · rw [Text.unlines_cons]
      exact List.append_nil _
    · rfl
  have hgiven := indentLine_two settings.indent (resolve scenario.given).text
  have hnil : Text.unlines [] = [] := rfl
  rw [Compilation.script, Compilation.lines, Scenario.page]
  simp only [Compilation.of, Compilation.bodyDepth, Text.unlines_append, Text.unlines_cons, hnil,
    hreference, hgiven, Emission.text, List.append_nil, List.append_assoc]

lemma Compilation.nodeCount_of (settings : Settings) (scenario : Scenario) :
    (Compilation.of settings scenario).nodeCount
      = (kept scenario.actions).length + (kept scenario.outcomes).length := by
  show Forest.count (Forest.ofStatements scenario.actions)
    + Forest.count (Forest.ofStatements scenario.outcomes) = _
  simp only [Forest.count_eq_length_traverse, Forest.traverse_ofStatements]

lemma Compilation.warnings_of (settings : Settings) (scenario : Scenario) :
    (Compilation.of settings scenario).warnings
      = (scenario.given :: kept scenario.actions ++ kept scenario.outcomes).flatMap
          fun statement => (resolve statement).unresolved := by
  rw [Compilation.warnings, Compilation.of]
  simp only [Forest.unresolved_emit, Forest.traverse_ofStatements, List.cons_append,
    List.flatMap_cons, List.flatMap_append, List.append_assoc]

/-- **What compiling gives is what is accounted for.** -/
lemma Scenario.result_iff_accounts {settings : Settings} {scenario : Scenario}
    {compiled : Compiled} :
    (Compilation.of settings scenario).result settings = compiled
      ↔ scenario.Accounts settings compiled := by
  constructor
  · rintro rfl
    exact ⟨rfl, Compilation.nodeCount_of settings scenario,
      Compilation.warnings_of settings scenario, Compilation.script_of settings scenario⟩
  · rintro ⟨hname, hcount, hwarnings, hscript⟩
    obtain ⟨name, script, warnings, nodeCount⟩ := compiled
    simp only at hname hcount hwarnings hscript
    rw [Compilation.result, Compilation.nodeCount_of, Compilation.warnings_of,
      Compilation.script_of, ← hcount, ← hwarnings, ← hscript, hname]
    rfl

/-! ## Compiling -/

lemma Scenario.map_statements (scenario : Scenario) :
    scenario.statements.map (·.2) = scenario.given :: scenario.actions ++ scenario.outcomes := by
  simp [Scenario.statements, Function.comp_def]

lemma Scenario.compile_eq_ok_iff {settings : Settings} {scenario : Scenario} {compiled : Compiled} :
    scenario.compile settings = .ok compiled
      ↔ scenario.Accepted settings ∧ scenario.Accounts settings compiled := by
  have haccepted : settings.suggester.validateAll (scenario.statements.map (·.2)) = .ok ()
      ↔ scenario.Accepted settings := by
    rw [Suggester.validateAll_eq_ok_iff, Scenario.map_statements, Scenario.Accepted]
  rw [Scenario.compile, Scenario.elaborate, ← haccepted, ← Scenario.result_iff_accounts]
  cases settings.suggester.validateAll (scenario.statements.map (·.2)) with
  | error fault => simp [Except.map]
  | ok _ => simp [Except.map]

/-- **A scenario is refused for the first fault** of its statements. -/
lemma Scenario.compile_eq_error_iff {settings : Settings} {scenario : Scenario}
    {fault : SyntaxFault} :
    scenario.compile settings = .error fault
      ↔ settings.suggester.FirstFault
          (scenario.given :: scenario.actions ++ scenario.outcomes) fault := by
  rw [← Scenario.map_statements, ← Suggester.validateAll_eq_error_iff, Scenario.compile,
    Scenario.elaborate]
  cases settings.suggester.validateAll (scenario.statements.map (·.2)) with
  | error found => simp [Except.map]
  | ok _ => simp [Except.map]

lemma Scenario.exists_compile_eq_ok_iff {settings : Settings} {scenario : Scenario} :
    (∃ compiled, scenario.compile settings = .ok compiled)
      ↔ ∀ statement ∈ scenario.given :: scenario.actions ++ scenario.outcomes,
          settings.suggester.check statement = [] := by
  rw [← Scenario.map_statements, ← Suggester.validateAll_eq_ok_iff_check, Scenario.compile,
    Scenario.elaborate]
  cases settings.suggester.validateAll (scenario.statements.map (·.2)) with
  | error found => simp [Except.map]
  | ok _ => simp [Except.map]

lemma eq_ok_of_toOption {ε α : Type} {result : Except ε α} {value : α}
    (h : result.toOption = some value) : result = .ok value := by
  cases result with
  | error fault => exact absurd h (by simp [Except.toOption])
  | ok inner => rw [Option.some.inj h]

/-- **When compiling succeeds, and what it gives**, for a scenario and for any value. -/
theorem compile_eq_ok_iff_accounts (settings : Settings) (compiled : Compiled) :
    (∀ scenario : Scenario, scenario.compile settings = .ok compiled
        ↔ scenario.Accepted settings ∧ scenario.Accounts settings compiled)
      ∧ ∀ value : Json, compile settings value = .ok compiled
        ↔ ∃ scenario, Scenario.load value = .ok scenario
            ∧ scenario.Accepted settings ∧ scenario.Accounts settings compiled := by
  refine ⟨fun scenario => Scenario.compile_eq_ok_iff, fun value => ?_⟩
  rw [compile]
  cases hload : Scenario.load value with
  | error fault => simp
  | ok scenario =>
      simp only [Except.ok.injEq, exists_eq_left', ← Scenario.compile_eq_ok_iff]
      cases scenario.compile settings with
      | error fault =>
          show Except.error (CompileFault.rejected fault) = .ok compiled ↔ _
          simp
      | ok result =>
          show Except.ok result = .ok compiled ↔ _
          simp

end ScenarioScript
