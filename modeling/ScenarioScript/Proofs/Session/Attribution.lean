import Mathlib.Data.List.Infix
import ScenarioScript.Proofs.Association
import ScenarioScript.Proofs.Compilation.Accounts
import ScenarioScript.Proofs.Session.Metering

/-!
# Whose records are in the log

The current name of a session is changed by setting it, by entering a context and by leaving one;
every call enters contexts of its own while it logs.  In any session, names nevertheless follow the
nesting of the contexts.

* `Session.Event` — what a session consists of, `Session.after` — the state that it leads to.
* `Session.Balanced` — every context that is entered is left again.  Balanced events keep the names
  that come back later (`Session.outer_after`), so that **leaving a context brings back the name
  that was current when it was entered** (`Session.context_after_exit`).
* `Session.exists_enter_or_closed` — the innermost open context was entered by some event, with
  balanced events behind it, unless it was open from the start (`Session.outer_suffix_of_closed`).
* `Session.context_call`, `Session.lines_call` — **a call** leaves name and contexts alone, and all
  its records carry the name of its scenario.
* `Session.names_follow_contexts` — all of it.
-/

namespace ScenarioScript

/-! ## Records that carry a name -/

namespace Log.Record

/-- The record, attributed to the scenario of a name. -/
def attributedTo (name : Text) (record : Log.Record) : Log.Record :=
  { record with attribution := .scenario name }

/-- **A record carries a name**: it is attributed to the scenario of that name, and no other field
    hides this in the JSON form. -/
structure Carries (name : Text) (record : Log.Record) : Prop where
  attribution : record.attribution = .scenario name
  field : ∀ timestamp,
    Association.get? "scenario".toText (record.fields timestamp) = some (.string name)

/-- The extra fields are about something else than the scenario. -/
def IsUnbiased (record : Log.Record) : Prop :=
  "scenario".toText ∉ record.extra.map (·.1)

end Log.Record

/-- An attributed record carries the name, whatever else it says. -/
lemma Log.Record.carries_attributedTo {name : Text} {record : Log.Record}
    (h : record.IsUnbiased) : (record.attributedTo name).Carries name := by
  refine ⟨rfl, fun timestamp => ?_⟩
  have hstandard : Association.get? "scenario".toText
      ((record.attributedTo name).standardFields timestamp) = some (.string name) := rfl
  have hextra : Association.get? "scenario".toText
      (Association.putAll ((record.attributedTo name).standardFields timestamp) record.extra)
        = some (.string name) := by
    rw [Association.get?_putAll_of_notMem _ h, hstandard]
  obtain ⟨logger, level, message, attribution, extra, exception⟩ := record
  cases exception with
  | none => exact hextra
  | some exception =>
      show Association.get? _ (Association.put "exception".toText _ _) = _
      rw [Association.get?_put_of_ne (by decide)]
      exact hextra

namespace Session

/-! ## Sessions -/

/-- **What can happen in a session.** -/
inductive Event where
  | setName (name : Option Text)
  | enter (name : Option Text)
  /-- Leaves the innermost context. -/
  | exit
  | call (call : Call)

/-- The state after an event. -/
def next (session : Session) : Event → Session
  | .setName name => (session.step (.setName name)).1
  | .enter name => (session.step (.enter name)).1
  | .exit => (session.step .exit).1
  | .call call => (session.call call).1

/-- **The state after a list of events.** -/
def after (session : Session) (events : List Event) : Session :=
  events.foldl next session

/-- **Balanced events**: every context that is entered is left, and no other. -/
inductive Balanced : List Event → Prop where
  | nil : Balanced []
  | setName {name : Option Text} {rest : List Event} :
      Balanced rest → Balanced (.setName name :: rest)
  | call {call : Call} {rest : List Event} : Balanced rest → Balanced (.call call :: rest)
  | context {name : Option Text} {inner rest : List Event} :
      Balanced inner → Balanced rest → Balanced (.enter name :: (inner ++ .exit :: rest))

lemma after_append (session : Session) (first second : List Event) :
    session.after (first ++ second) = (session.after first).after second :=
  List.foldl_append

/-! ## Nested contexts -/

/-- **A call leaves the current name and the open contexts as they are**, however it ends. -/
lemma context_call (session : Session) (call : Call) :
    (session.call call).1.context = session.context := by
  rcases compile_cases session.settings call.value with
    ⟨fault, hfault⟩ | ⟨scenario, compiled, hload, hcompile, -⟩
  · rw [(call_of_raised hfault).1]
    rfl
  · cases call with
    | compile value =>
        simp only [Call.value] at hload
        obtain ⟨lines, hcall⟩ := call_compile_of_ok hload hcompile
        rw [hcall]
    | write value path delivery =>
        simp only [Call.value] at hload
        cases hwrite : delivery path compiled.script session.store with
        | mk store failure =>
            obtain ⟨lines, hcall⟩ := call_write_of_ok hload hcompile hwrite
            rw [hcall]

section Next

variable (session : Session)

@[simp] lemma after_nil : session.after [] = session := rfl

@[simp] lemma after_cons (event : Event) (rest : List Event) :
    session.after (event :: rest) = (session.next event).after rest := rfl

@[simp] lemma context_setName (name : Option Text) :
    (session.next (.setName name)).context = session.context.setName name := rfl

@[simp] lemma context_enter (name : Option Text) :
    (session.next (.enter name)).context = session.context.enter name := rfl

@[simp] lemma context_exit : (session.next .exit).context = session.context.exit := rfl

@[simp] lemma context_next_call (call : Call) :
    (session.next (.call call)).context = session.context :=
  context_call session call

end Next

lemma exit_eq_of_outer {context saved : Log.Context}
    (h : context.outer = saved.name :: saved.outer) : context.exit = saved := by
  rw [Log.Context.exit, h]

/-- **Balanced events keep the names that come back later.** -/
lemma outer_after {events : List Event} (h : Balanced events) (session : Session) :
    (session.after events).context.outer = session.context.outer := by
  induction h generalizing session with
  | nil => rfl
  | setName _ ih =>
      rw [after_cons, ih, context_setName]
      rfl
  | call _ ih => rw [after_cons, ih, context_next_call]
  | context _ _ ihinner ih =>
      -- the exit takes the name that the enter has put in front
      rw [after_cons, after_append, after_cons, ih, context_exit,
        exit_eq_of_outer (ihinner (session.next (.enter _)))]

/-- **Leaving a context brings back the name that was current when it was entered**, and the
    contexts that were open then. -/
lemma context_after_exit {inner : List Event} (h : Balanced inner) (session : Session)
    (name : Option Text) :
    (session.after (.enter name :: (inner ++ [.exit]))).context = session.context := by
  rw [after_cons, after_append, after_cons, after_nil, context_exit,
    exit_eq_of_outer (outer_after h (session.next (.enter name)))]

/-- Events that leave every context that they enter; they may also leave others. -/
inductive Closed : List Event → Prop where
  | balanced {events : List Event} : Balanced events → Closed events
  | exit {inner rest : List Event} : Balanced inner → Closed rest → Closed (inner ++ .exit :: rest)

/-- Behind closed events no context is open that was not open from the start. -/
lemma outer_suffix_of_closed {events : List Event} (h : Closed events) (session : Session) :
    (session.after events).context.outer <:+ session.context.outer := by
  induction h generalizing session with
  | balanced h => rw [outer_after h]
  | exit hinner _ ih =>
      rw [after_append, after_cons]
      refine (ih _).trans ?_
      rw [context_exit, ← outer_after hinner session, Log.Context.exit]
      split
      · exact List.suffix_rfl
      · rename_i saved outer houter
        rw [houter]
        exact List.suffix_cons saved outer

/-- **Where the innermost open context comes from**: some event has entered it, with balanced events
    behind it; otherwise the events are closed. -/
lemma exists_enter_or_closed : ∀ events : List Event,
    (∃ before name inner, events = before ++ .enter name :: inner ∧ Balanced inner) ∨ Closed events
  | [] => .inr (.balanced .nil)
  | event :: rest => by
      rcases exists_enter_or_closed rest with ⟨before, name, inner, rfl, hinner⟩ | hrest
      · exact .inl ⟨event :: before, name, inner, rfl, hinner⟩
      · cases event with
        | setName name =>
            cases hrest with
            | balanced h => exact .inr (.balanced (.setName h))
            | exit hinner h => exact .inr (.exit (.setName hinner) h)
        | call call =>
            cases hrest with
            | balanced h => exact .inr (.balanced (.call h))
            | exit hinner h => exact .inr (.exit (.call hinner) h)
        | exit => exact .inr (.exit .nil hrest)
        | enter name =>
            cases hrest with
            | balanced h => exact .inl ⟨[], name, rest, rfl, h⟩
            | exit hinner h =>
                -- the first exit behind it leaves the context
                cases h with
                | balanced h => exact .inr (.balanced (.context hinner h))
                | exit hinner' h =>
                    have hcontext : Balanced (.enter name :: _) := .context hinner hinner'
                    have hclosed := Closed.exit hcontext h
                    exact .inr (by simpa using hclosed)

/-! ## The records of a call -/

/-- **The lines that attributed records leave in the log.** -/
def written (session : Session) (records : List Log.Record) : Text :=
  match session.sink with
  | none => []
  | some sink => records.flatMap (sink.write session.clock)

lemma written_append (session : Session) (first second : List Log.Record) :
    session.written (first ++ second) = session.written first ++ session.written second := by
  rw [written, written, written]
  cases session.sink with
  | none => rfl
  | some sink => exact List.flatMap_append

/-- **The records of a call**, before they are attributed: what compiling reports, and then what
    writing reports, if there is a script to write. -/
def Call.records (session : Session) (call : Call) : List Log.Record :=
  match Scenario.load call.value with
  | .error _ => []
  | .ok scenario =>
    (scenario.report session.settings).records
      ++ match call, scenario.compile session.settings with
        | .write _ path delivery, .ok compiled =>
          (writeReport path (delivery path compiled.script session.store).2).records
        | _, _ => []

lemma ne_nil_of_loadText {fields : List (Text × Json)} {field text : Text}
    (h : Scenario.loadText fields field = .ok text) : text ≠ [] := by
  rintro rfl
  rw [Scenario.loadText] at h
  split at h
  · exact absurd h (by simp)
  · split at h
    · exact absurd h (by simp)
    · rename_i value found hfound
      obtain rfl : found = [] := Except.ok.inj h
      rw [Scenario.nonBlank] at hfound
      split at hfound
      · exact absurd hfound (by simp)
      · split at hfound
        · exact absurd hfound (by simp)
        · rename_i text _ hblank
          obtain rfl : text = [] := Except.ok.inj hfound
          exact hblank rfl

/-- **Every scenario has a name.** -/
lemma name_ne_nil_of_load {value : Json} {scenario : Scenario}
    (h : Scenario.load value = .ok scenario) : scenario.name ≠ [] := by
  cases value with
  | object fields =>
      have hfields : Scenario.ofFields fields = .ok scenario := by
        rw [Scenario.load] at h
        cases hfields : Scenario.ofFields fields with
        | error problems =>
            rw [hfields] at h
            cases h
        | ok found =>
            rw [hfields] at h
            exact congrArg Except.ok (Except.ok.inj h)
      rw [Scenario.ofFields] at hfields
      split at hfields
      · rename_i name given actions outcomes hname _ _ _
        obtain rfl := Except.ok.inj hfields
        exact ne_nil_of_loadText hname
      · cases hfields
  | _ => cases h

/-- What is reported while a scenario is current is attributed to it. -/
lemma lines_reportWithin {name : Text} (h : name ≠ []) (session : Session) (report : Report) :
    (session.reportWithin name report).2
      = session.written (report.records.map (·.attributedTo name)) := by
  have hname : Log.Context.nonEmpty (some name) = some name := by
    cases name with
    | nil => exact absurd rfl h
    | cons c rest => rfl
  rw [reportWithin, written]
  simp only [logged, Log.Context.enter, hname, List.flatMap_map]
  rfl

/-- **What a call leaves in the log**: its records, all attributed to the scenario that is compiled,
    whatever name was current before. -/
lemma lines_call {session : Session} {call : Call} {scenario : Scenario}
    (hload : Scenario.load call.value = .ok scenario) :
    (session.call call).2.2
      = session.written ((call.records session).map (·.attributedTo scenario.name)) := by
  have hname := name_ne_nil_of_load hload
  have hcompiled := lines_reportWithin hname session (scenario.report session.settings)
  cases call with
  | compile value =>
      simp only [Call.value] at hload
      simp only [Session.call, hload, compileScenario, Call.records, Call.value, List.append_nil]
      exact hcompiled
  | write value path delivery =>
      simp only [Call.value] at hload
      simp only [Session.call, hload, Call.records, Call.value, writeScenario, compileScenario_eq]
      cases hcompile : scenario.compile session.settings with
      | error fault =>
          rw [List.append_nil]
          exact hcompiled
      | ok compiled =>
          have hsame : compiled.name = scenario.name :=
            (Scenario.compile_eq_ok_iff.mp hcompile).2.name
          simp only [hcompiled, hsame, lines_reportWithin hname, List.map_append, written_append]
          rfl

lemma isUnbiased_compilerRecord (level : Int) (message : Text) :
    (compilerRecord level message).IsUnbiased := by
  simp [Log.Record.IsUnbiased, compilerRecord]

lemma isUnbiased_of_mem_report {scenario : Scenario} {settings : Settings} {record : Log.Record}
    (h : record ∈ (scenario.report settings).records) : record.IsUnbiased := by
  rw [Scenario.report] at h
  split at h
  · obtain rfl := List.mem_singleton.mp h
    exact isUnbiased_compilerRecord _ _
  · rename_i compilation _
    rcases List.mem_append.mp h with h | h
    · rcases List.mem_cons.mp h with rfl | h
      · exact isUnbiased_compilerRecord _ _
      · obtain ⟨warning, -, rfl⟩ := List.mem_map.mp h
        exact isUnbiased_compilerRecord _ _
    · -- the only record with fields of its own
      obtain rfl := List.mem_singleton.mp h
      simp [Log.Record.IsUnbiased, Compilation.summary]

lemma isUnbiased_of_mem_writeReport {path : Text} {failure : Option Text} {record : Log.Record}
    (h : record ∈ (writeReport path failure).records) : record.IsUnbiased := by
  cases failure with
  | none =>
      obtain rfl := List.mem_singleton.mp h
      exact isUnbiased_compilerRecord _ _
  | some message =>
      obtain rfl := List.mem_singleton.mp h
      exact isUnbiased_compilerRecord _ _

/-- No record of a call says anything else about the scenario. -/
lemma isUnbiased_of_mem_records {session : Session} {call : Call} {record : Log.Record}
    (h : record ∈ call.records session) : record.IsUnbiased := by
  rw [Call.records] at h
  split at h
  · exact absurd h (by simp)
  · rcases List.mem_append.mp h with h | h
    · exact isUnbiased_of_mem_report h
    · split at h
      · exact isUnbiased_of_mem_writeReport h
      · exact absurd h (by simp)

/-- **Names follow contexts**, in every session.  An exit brings back the name that was current
    before the enter that it belongs to, whatever balanced events lie between the two, and an exit
    belongs to no enter of the session only if no context is left that the session has entered.  A
    call, however it ends, leaves the name and the open contexts as they are.  What it logs does not
    depend on them: nothing if its value is no scenario, and otherwise records that all carry the
    name of the scenario. -/
theorem names_follow_contexts :
    (∀ (session : Session) (before inner : List Event) (name : Option Text), Balanced inner →
        (session.after (before ++ .enter name :: (inner ++ [.exit]))).context
          = (session.after before).context)
      ∧ (∀ (session : Session) (events : List Event),
        (∃ before name inner, events = before ++ .enter name :: inner ∧ Balanced inner)
          ∨ (session.after events).context.outer <:+ session.context.outer)
      ∧ ∀ (session : Session) (call : Call),
        (session.call call).1.context = session.context
          ∧ (∀ fault, Scenario.load call.value = .error fault → (session.call call).2.2 = [])
          ∧ ∀ scenario, Scenario.load call.value = .ok scenario →
            (session.call call).2.2
                = session.written ((call.records session).map (·.attributedTo scenario.name))
              ∧ ∀ record ∈ (call.records session).map (·.attributedTo scenario.name),
                  record.Carries scenario.name := by
  refine ⟨fun session before inner name hinner => ?_, fun session events => ?_,
    fun session call => ⟨context_call session call, fun fault hload => ?_, fun scenario hload =>
      ⟨lines_call hload, fun record hrecord => ?_⟩⟩⟩
  · rw [after_append]
    exact context_after_exit hinner (session.after before) name
  · exact (exists_enter_or_closed events).imp_right fun h => outer_suffix_of_closed h session
  · cases call with
    | compile value =>
        simp only [Call.value] at hload
        rw [Session.call, hload]
    | write value path delivery =>
        simp only [Call.value] at hload
        rw [Session.call, hload]
  · obtain ⟨plain, hplain, rfl⟩ := List.mem_map.mp hrecord
    exact Log.Record.carries_attributedTo (isUnbiased_of_mem_records hplain)

/-- The case of a script that cannot be written, inside a context in which the name was changed and
    another context was entered and left. -/
theorem names_follow_contexts_unwritten :
    let session : Session := { sink := some { level := 10 } }
    let call : Call := .write unfinished "a".toText (Writer.write (.failing "full".toText))
    let inner : List Event := [.setName (some "b".toText), .call call, .enter none, .exit]
    let scenario : Scenario :=
      ⟨"A".toText, "<visit_home>".toText, ["<click_a>".toText, "<click_b>".toText],
        ["<end>".toText]⟩
    Balanced inner
      ∧ (session.after
          ([.setName (some "o".toText)] ++ .enter (some "c".toText) :: (inner ++ [.exit]))).context
        = ⟨some "o".toText, []⟩
      ∧ Scenario.load call.value = .ok scenario
      ∧ (session.call call).2.2
        = session.written ((call.records session).map (·.attributedTo "A".toText))
      ∧ (call.records session).map (·.level) = [10, 30, 20, 40]
      ∧ ∀ record ∈ (call.records session).map (·.attributedTo "A".toText),
          record.Carries "A".toText := by
  intro session call inner scenario
  obtain ⟨hexit, -, hcall⟩ := names_follow_contexts
  have hinner : Balanced inner := .setName (.call (.context .nil .nil))
  have hload : Scenario.load call.value = .ok scenario := rfl
  have hlevels : (call.records session).map (·.level) = [10, 30, 20, 40] := by decide +kernel
  obtain ⟨-, -, hrecords⟩ := hcall session call
  obtain ⟨hlines, hcarries⟩ := hrecords scenario hload
  exact ⟨hinner, hexit session [.setName (some "o".toText)] inner (some "c".toText) hinner, hload,
    hlines, hlevels, hcarries⟩

end Session

end ScenarioScript
