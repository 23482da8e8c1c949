import Mathlib.Tactic.Lemma
import ScenarioScript.Session

/-!
# What the metrics say about a run

A call of the compiler ends in one of four ways: the value is no scenario, a statement is rejected,
the script is there, or it is there and cannot be written.  The first two raise, the others return,
and each leaves its own mark on the metrics.

* `Session.Metered` — the metrics of a run, told by its calls and their answers.
* `Session.call_of_raised`, `Session.call_of_returned` — **what one call does**, whatever it is
  about and whatever writes the script.
* `Session.metered_call`, `Session.metered_calls` — one call is metered, and so is a run, because
  metered runs can be joined (`Session.Metered.append`).
* `Session.metrics_account_for_calls` — the accounts of a run.
-/

namespace ScenarioScript

/-- The metrics with one more script in them. -/
def Metrics.counted (metrics : Metrics) (compiled : Compiled)
    (scenario : Scenario) : Metrics :=
  { metrics with
    compiled := metrics.compiled.add 1.0
    unresolved := metrics.unresolved.add (Float.ofNat compiled.warnings.length)
    statements := metrics.statements.add (Float.ofNat scenario.statementCount) }

namespace Session

/-! ## Calls and answers -/

/-- The value that a call is about. -/
def Call.value : Call → Json
  | .compile value => value
  | .write value _ _ => value

/-- The answer of a call that raises. -/
def Call.refusal (fault : CompileFault) : Call → Answer
  | .compile _ => .compiled (.error fault)
  | .write _ _ _ => .written (.error fault)

/-- **Calls one after the other**: the state afterwards and the answers. -/
def calls : Session → List Call → Session × List Answer
  | session, [] => (session, [])
  | session, call :: rest =>
    let (after, answer, _) := session.call call
    ((after.calls rest).1, answer :: (after.calls rest).2)

/-- **The call returns**; otherwise it raises. -/
def Answer.returns : Answer → Bool
  | .compiled (.ok _) => true
  | .written (.ok _) => true
  | _ => false

/-- The call returns, and says that the script could not be written. -/
def Answer.isUnwritten : Answer → Bool
  | .written (.ok ⟨_, .error _⟩) => true
  | _ => false

/-- The number of warnings, if there is a script. -/
def Call.warningCount? (settings : Settings) (call : Call) : Option Nat :=
  (ScenarioScript.compile settings call.value).toOption.map fun compiled => compiled.warnings.length

/-- The number of statements, if there is a script. -/
def Call.statementCount? (settings : Settings) (call : Call) : Option Nat :=
  (ScenarioScript.compile settings call.value).toOption.bind fun _ =>
    (Scenario.load call.value).toOption.map fun scenario =>
      1 + scenario.actions.length + scenario.outcomes.length

/-- **The metrics of a run.**  Every call that returns is counted as compiled, with its warnings
    and its statements, whether or not its script was written; every other call is counted as
    failed. -/
structure Metered (settings : Settings) (calls : List Call) (answers : List Answer)
    (before after : Metrics) : Prop where
  compiled : after.compiled.increments
    = before.compiled.increments ++ List.replicate (answers.countP (·.returns)) 1.0
  failed : after.failed.increments
    = before.failed.increments ++ List.replicate (answers.countP (!·.returns)) 1.0
  unresolved : after.unresolved.increments
    = before.unresolved.increments
      ++ (calls.filterMap (·.warningCount? settings)).map Float.ofNat
  statements : after.statements.observations
    = before.statements.observations
      ++ (calls.filterMap (·.statementCount? settings)).map Float.ofNat
  writeFailures : after.writeFailures.increments
    = before.writeFailures.increments ++ List.replicate (answers.countP (·.isUnwritten)) 1.0

lemma Metered.nil (settings : Settings) (metrics : Metrics) :
    Metered settings [] [] metrics metrics := by
  constructor <;> simp

/-- **Metered runs can be joined.** -/
lemma Metered.append {settings : Settings} {first second : List Call} {answers more : List Answer}
    {before middle after : Metrics} (h : Metered settings first answers before middle)
    (h' : Metered settings second more middle after) :
    Metered settings (first ++ second) (answers ++ more) before after where
  compiled := by
    rw [h'.compiled, h.compiled, List.countP_append, List.append_assoc,
      List.replicate_append_replicate]
  failed := by
    rw [h'.failed, h.failed, List.countP_append, List.append_assoc,
      List.replicate_append_replicate]
  unresolved := by
    rw [h'.unresolved, h.unresolved, List.filterMap_append, List.map_append, List.append_assoc]
  statements := by
    rw [h'.statements, h.statements, List.filterMap_append, List.map_append, List.append_assoc]
  writeFailures := by
    rw [h'.writeFailures, h.writeFailures, List.countP_append, List.append_assoc,
      List.replicate_append_replicate]

/-! ## One call -/

lemma compileScenario_eq (session : Session) (scenario : Scenario) :
    session.compileScenario scenario
      = ({ session with
            metrics := session.metrics.recordAll (scenario.report session.settings).measurements },
          scenario.compile session.settings,
          (session.reportWithin scenario.name (scenario.report session.settings)).2) :=
  rfl

lemma compile_of_load {settings : Settings} {value : Json} {scenario : Scenario}
    (h : Scenario.load value = .ok scenario) :
    compile settings value = (scenario.compile settings).mapError .rejected := by
  rw [compile, h]

/-- A value can be compiled if it is a scenario that can be compiled. -/
lemma compile_cases (settings : Settings) (value : Json) :
    (∃ fault, compile settings value = .error fault)
      ∨ ∃ scenario compiled, Scenario.load value = .ok scenario
        ∧ scenario.compile settings = .ok compiled ∧ compile settings value = .ok compiled := by
  cases hload : Scenario.load value with
  | error fault => exact .inl ⟨.malformed fault, by rw [compile, hload]⟩
  | ok scenario =>
      rw [compile_of_load hload]
      cases hcompile : scenario.compile settings with
      | error fault => exact .inl ⟨.rejected fault, rfl⟩
      | ok compiled => exact .inr ⟨scenario, compiled, rfl, hcompile, rfl⟩

/-- **What a scenario does to the metrics.** -/
lemma measurements_report (scenario : Scenario) (settings : Settings) :
    (scenario.report settings).measurements
      = match scenario.compile settings with
        | .error _ => [.failed]
        | .ok compiled =>
          [.compiled, .unresolved compiled.warnings.length,
            .statements scenario.statementCount] := by
  rw [Scenario.report, Scenario.compile, Scenario.elaborate]
  cases settings.suggester.validateAll (scenario.statements.map (·.2)) with
  | error fault => rfl
  | ok _ => rfl

section Call

variable {session : Session} {call : Call}

lemma compileScenario_of_error {scenario : Scenario} {fault : SyntaxFault}
    (h : scenario.compile session.settings = .error fault) :
    ∃ lines, session.compileScenario scenario = (session.refused, .error fault, lines) := by
  have hmeasured := measurements_report scenario session.settings
  rw [h] at hmeasured
  rw [compileScenario_eq, hmeasured, h]
  exact ⟨_, rfl⟩

lemma compileScenario_of_ok {scenario : Scenario} {compiled : Compiled}
    (h : scenario.compile session.settings = .ok compiled) :
    ∃ lines, session.compileScenario scenario
      = ({ session with metrics := session.metrics.counted compiled scenario },
          .ok compiled, lines) := by
  have hmeasured := measurements_report scenario session.settings
  rw [h] at hmeasured
  rw [compileScenario_eq, hmeasured, h]
  exact ⟨_, rfl⟩

lemma exists_call_of_error {fault : CompileFault}
    (h : compile session.settings call.value = .error fault) :
    ∃ lines, session.call call = (session.refused, call.refusal fault, lines) := by
  cases hload : Scenario.load call.value with
  | error found =>
      rw [compile, hload] at h
      obtain rfl := Except.error.inj h
      cases call with
      | compile value =>
          simp only [Call.value] at hload
          simp only [Session.call, hload]
          exact ⟨_, rfl⟩
      | write value path delivery =>
          simp only [Call.value] at hload
          simp only [Session.call, hload]
          exact ⟨_, rfl⟩
  | ok scenario =>
      rw [compile_of_load hload] at h
      cases hcompile : scenario.compile session.settings with
      | ok compiled =>
          rw [hcompile] at h
          cases h
      | error found =>
          rw [hcompile] at h
          obtain rfl : .rejected found = fault := Except.error.inj h
          obtain ⟨lines, hafter⟩ := compileScenario_of_error hcompile
          cases call with
          | compile value =>
              simp only [Call.value] at hload
              simp only [Session.call, hload, hafter]
              exact ⟨_, rfl⟩
          | write value path delivery =>
              simp only [Call.value] at hload
              simp only [Session.call, hload, writeScenario, hafter]
              exact ⟨_, rfl⟩

/-- **A call that raises** is counted as failed, and nothing else happens. -/
lemma call_of_raised {fault : CompileFault}
    (h : compile session.settings call.value = .error fault) :
    (session.call call).1 = session.refused ∧ (session.call call).2.1.returns = false
      ∧ (session.call call).2.1.isUnwritten = false := by
  obtain ⟨lines, hcall⟩ := exists_call_of_error h
  rw [hcall]
  cases call with
  | compile value => exact ⟨rfl, rfl, rfl⟩
  | write value path delivery => exact ⟨rfl, rfl, rfl⟩

lemma call_compile_of_ok {value : Json} {scenario : Scenario} {compiled : Compiled}
    (hload : Scenario.load value = .ok scenario)
    (hcompile : scenario.compile session.settings = .ok compiled) :
    ∃ lines, session.call (.compile value)
      = ({ session with metrics := session.metrics.counted compiled scenario },
          .compiled (.ok compiled), lines) := by
  obtain ⟨lines, hafter⟩ := compileScenario_of_ok hcompile
  simp only [Session.call, hload, hafter]
  exact ⟨_, rfl⟩

/-- All that is left to chance is what the writer does. -/
lemma call_write_of_ok {value : Json} {path : Text} {delivery : Delivery} {scenario : Scenario}
    {compiled : Compiled} {store : Store} {failure : Option Text}
    (hload : Scenario.load value = .ok scenario)
    (hcompile : scenario.compile session.settings = .ok compiled)
    (hwrite : delivery path compiled.script session.store = (store, failure)) :
    ∃ lines, session.call (.write value path delivery)
      = ({ session with
            store
            metrics := (session.metrics.counted compiled scenario).recordAll
              (writeReport path failure).measurements },
          .written (.ok ⟨path, failure.elim (.ok compiled) .error⟩), lines) := by
  obtain ⟨lines, hafter⟩ := compileScenario_of_ok hcompile
  simp only [Session.call, hload, writeScenario, hafter, hwrite]
  cases failure with
  | none => exact ⟨_, rfl⟩
  | some message => exact ⟨_, rfl⟩

/-- **A call that returns** is counted as compiled, with its warnings and statements, and as a
    failure to write if it says so. -/
lemma call_of_returned {scenario : Scenario} {compiled : Compiled}
    (hload : Scenario.load call.value = .ok scenario)
    (hcompile : scenario.compile session.settings = .ok compiled) :
    (session.call call).2.1.returns = true ∧ (session.call call).1.settings = session.settings
      ∧ (session.call call).1.metrics
        = if (session.call call).2.1.isUnwritten
          then (session.metrics.counted compiled scenario).record .writeFailed
          else session.metrics.counted compiled scenario := by
  cases call with
  | compile value =>
      simp only [Call.value] at hload
      obtain ⟨lines, hcall⟩ := call_compile_of_ok hload hcompile
      rw [hcall]
      exact ⟨rfl, rfl, rfl⟩
  | write value path delivery =>
      simp only [Call.value] at hload
      cases hwrite : delivery path compiled.script session.store with
      | mk store failure =>
          obtain ⟨lines, hcall⟩ := call_write_of_ok hload hcompile hwrite
          rw [hcall]
          cases failure with
          | none => exact ⟨rfl, rfl, rfl⟩
          | some message => exact ⟨rfl, rfl, rfl⟩

/-- **A script is unwritten** exactly if the writer says so. -/
lemma isUnwritten_write {value : Json} {path : Text} {delivery : Delivery} {compiled : Compiled}
    (h : compile session.settings value = .ok compiled) :
    (session.call (.write value path delivery)).2.1.isUnwritten
      = (delivery path compiled.script session.store).2.isSome := by
  rcases compile_cases session.settings value with
    ⟨fault, hfault⟩ | ⟨scenario, found, hload, hcompile, hok⟩
  · exact absurd (hfault.symm.trans h) (by simp)
  · obtain rfl : found = compiled := Except.ok.inj (hok.symm.trans h)
    cases hwrite : delivery path found.script session.store with
    | mk store failure =>
        obtain ⟨lines, hcall⟩ := call_write_of_ok hload hcompile hwrite
        rw [hcall]
        cases failure with
        | none => rfl
        | some message => rfl

end Call

/-- **One call is metered**, and the settings stay. -/
lemma metered_call (session : Session) (call : Call) :
    Metered session.settings [call] [(session.call call).2.1] session.metrics
        (session.call call).1.metrics
      ∧ (session.call call).1.settings = session.settings
      ∧ (session.call call).2.1.returns = (compile session.settings call.value).isOk := by
  rcases compile_cases session.settings call.value with
    ⟨fault, hfault⟩ | ⟨scenario, compiled, hload, hcompile, hok⟩
  · obtain ⟨hafter, hreturns, hwritten⟩ := call_of_raised hfault
    have hwarnings : call.warningCount? session.settings = none := by
      rw [Call.warningCount?, hfault]
      rfl
    have hstatements : call.statementCount? session.settings = none := by
      rw [Call.statementCount?, hfault]
      rfl
    rw [hafter, hreturns, hfault]
    refine ⟨⟨?_, ?_, ?_, ?_, ?_⟩, rfl, rfl⟩
    all_goals
      simp [refused, Metrics.record, Counter.add, hreturns, hwritten, hwarnings, hstatements]
  · obtain ⟨hreturns, hsettings, hmetrics⟩ := call_of_returned hload hcompile
    have hwarnings : call.warningCount? session.settings = some compiled.warnings.length := by
      rw [Call.warningCount?, hok]
      rfl
    have hstatements : call.statementCount? session.settings
        = some (1 + scenario.actions.length + scenario.outcomes.length) := by
      rw [Call.statementCount?, hok, hload]
      rfl
    rw [hmetrics, hreturns, hok]
    refine ⟨?_, hsettings, rfl⟩
    cases hwritten : (session.call call).2.1.isUnwritten with
    | false =>
        constructor <;>
          simp [Metrics.counted, Counter.add, Histogram.add, Scenario.statementCount, hreturns,
            hwritten, hwarnings, hstatements]
    | true =>
        constructor <;>
          simp [Metrics.counted, Metrics.record, Counter.add, Histogram.add,
            Scenario.statementCount, hreturns, hwritten, hwarnings, hstatements]

/-! ## A run -/

/-- **A run is metered.** -/
lemma metered_calls (session : Session) (list : List Call) :
    Metered session.settings list (session.calls list).2 session.metrics
        (session.calls list).1.metrics
      ∧ (session.calls list).2.map Answer.returns
        = list.map fun call => (compile session.settings call.value).isOk := by
  induction list generalizing session with
  | nil => exact ⟨Metered.nil _ _, rfl⟩
  | cons call rest ih =>
      obtain ⟨hfirst, hsettings, hreturns⟩ := metered_call session call
      obtain ⟨hrest, hreturned⟩ := ih (session.call call).1
      rw [hsettings] at hrest hreturned
      refine ⟨hfirst.append hrest, ?_⟩
      simp only [calls, List.map_cons, hreturns, hreturned]

lemma isSome_statementCount? (settings : Settings) (call : Call) :
    (call.statementCount? settings).isSome = (compile settings call.value).isOk := by
  rcases compile_cases settings call.value with
    ⟨fault, hfault⟩ | ⟨scenario, compiled, hload, -, hok⟩
  · rw [Call.statementCount?, hfault]
    rfl
  · rw [Call.statementCount?, hok, hload]
    rfl

/-- There is one observation for each call that returns. -/
lemma length_filterMap_statementCount? {settings : Settings} {list : List Call}
    {answers : List Answer}
    (h : answers.map Answer.returns = list.map fun call => (compile settings call.value).isOk) :
    (list.filterMap (·.statementCount? settings)).length = answers.countP (·.returns) := by
  have hcount := congrArg (List.countP id) h
  rw [List.countP_map, List.countP_map] at hcount
  rw [List.length_filterMap_eq_countP]
  simp only [isSome_statementCount?]
  exact hcount.symm

/-- **The metrics account for every call.**  Take any session, whatever its metrics are, and any
    calls to compile values or to compile and write them, with any writers.  The run is metered,
    the number of observations grows by the number of calls that return, and a call returns exactly
    if its value can be compiled.  A call that raises changes nothing in the session but the
    counter of failures, and a call that returns says that the script could not be written exactly
    if the writer failed. -/
theorem metrics_account_for_calls (session : Session) (list : List Call) :
    Metered session.settings list (session.calls list).2 session.metrics
        (session.calls list).1.metrics
      ∧ (session.calls list).1.metrics.statements.count
        = session.metrics.statements.count + (session.calls list).2.countP (·.returns)
      ∧ (session.calls list).2.map Answer.returns
        = list.map (fun call => (compile session.settings call.value).isOk)
      ∧ (∀ (current : Session) (call : Call), (current.call call).2.1.returns = false →
          (current.call call).1
            = { current with metrics := { current.metrics with
                  failed := ⟨current.metrics.failed.increments ++ [1.0]⟩ } })
      ∧ ∀ (current : Session) (value : Json) (path : Text) (delivery : Delivery)
          (compiled : Compiled), compile current.settings value = .ok compiled →
            (current.call (.write value path delivery)).2.1.isUnwritten
              = (delivery path compiled.script current.store).2.isSome := by
  obtain ⟨hmetered, hreturned⟩ := metered_calls session list
  refine ⟨hmetered, ?_, hreturned, ?_, ?_⟩
  · rw [Histogram.count, hmetered.statements, List.length_append, List.length_map,
      length_filterMap_statementCount? hreturned, Histogram.count]
  · intro current call hraised
    rcases compile_cases current.settings call.value with
      ⟨fault, hfault⟩ | ⟨scenario, compiled, hload, hcompile, -⟩
    · exact (call_of_raised hfault).1
    · rw [(call_of_returned hload hcompile).1] at hraised
      exact absurd hraised (by simp)
  · intro current value path delivery compiled h
    exact isUnwritten_write h

/-- A scenario with a placeholder that no form of its family accepts. -/
def unfinished : Json :=
  .object [("name".toText, .string "A".toText), ("given".toText, .string "<visit_home>".toText),
    ("when".toText, .array [.string "<click_a>".toText, .string "<click_b>".toText]),
    ("then".toText, .string "<end>".toText)]

/-- A scenario with a placeholder that belongs to no family. -/
def rejected : Json :=
  .object [("name".toText, .string "B".toText), ("given".toText, .string "<end>".toText),
    ("when".toText, .string "<clik_a>".toText), ("then".toText, .string "<end>".toText)]

/-- A call for each end: a script, no scenario, a rejected statement, a script that is not
    written. -/
def fourCalls : List Call :=
  [.compile unfinished, .compile .null, .compile rejected,
    .write unfinished "a".toText (Writer.write (.failing "full".toText))]

/-- The case of one call for each end. -/
theorem metrics_account_for_four_calls :
    (({} : Session).calls fourCalls).1.metrics.compiled.increments = [1.0, 1.0]
      ∧ (({} : Session).calls fourCalls).1.metrics.failed.increments = [1.0, 1.0]
      ∧ (({} : Session).calls fourCalls).1.metrics.unresolved.increments
        = [Float.ofNat 1, Float.ofNat 1]
      ∧ (({} : Session).calls fourCalls).1.metrics.statements.observations
        = [Float.ofNat 4, Float.ofNat 4]
      ∧ (({} : Session).calls fourCalls).1.metrics.statements.count = 2
      ∧ (({} : Session).calls fourCalls).1.metrics.writeFailures.increments = [1.0]
      ∧ (({} : Session).call (.compile .null)).2.1.returns = false
      ∧ (({} : Session).call (.compile .null)).1 = { metrics := { failed := ⟨[1.0]⟩ } }
      ∧ ∃ compiled, compile {} unfinished = .ok compiled
        ∧ (({} : Session).call (.write unfinished "a".toText
            (Writer.write (.failing "full".toText)))).2.1.isUnwritten = true := by
  obtain ⟨hmetered, hcount, -, hraised, hunwritten⟩ := metrics_account_for_calls {} fourCalls
  have hreturns : (({} : Session).calls fourCalls).2.countP (·.returns) = 2 := by decide +kernel
  have hraises : (({} : Session).calls fourCalls).2.countP (!·.returns) = 2 := by decide +kernel
  have hfailures : (({} : Session).calls fourCalls).2.countP (·.isUnwritten) = 1 := by
    decide +kernel
  have hwarnings : fourCalls.filterMap (·.warningCount? {}) = [1, 1] := by decide +kernel
  have hstatements : fourCalls.filterMap (·.statementCount? {}) = [4, 4] := by decide +kernel
  have hnull : (({} : Session).call (.compile .null)).2.1.returns = false := by decide +kernel
  have hok : (compile {} unfinished).isOk = true := by decide +kernel
  obtain ⟨compiled, hcompiled⟩ : ∃ compiled, compile {} unfinished = .ok compiled := by
    cases hresult : compile {} unfinished with
    | ok compiled => exact ⟨compiled, rfl⟩
    | error fault =>
        rw [hresult] at hok
        exact absurd hok (by simp [Except.isOk, Except.toBool])
  refine ⟨?_, ?_, ?_, ?_, ?_, ?_, hnull, hraised {} (.compile .null) hnull, compiled, hcompiled, ?_⟩
  · rw [hmetered.compiled, hreturns]
    rfl
  · rw [hmetered.failed, hraises]
    rfl
  · rw [hmetered.unresolved, hwarnings]
    rfl
  · rw [hmetered.statements, hstatements]
    rfl
  · rw [hcount, hreturns]
    rfl
  · rw [hmetered.writeFailures, hfailures]
    rfl
  · exact hunwritten {} unfinished "a".toText _ compiled hcompiled

end Session

end ScenarioScript
