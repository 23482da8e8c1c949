import ScenarioScript.Proofs.Session.Metering

/-!
# What becomes of a script

Writing a scenario is compiling it and then handing the script to a writer.  So a call to write ends
in one of three ways: compiling raises, and the writer never comes into play; the writer fails, and
the failure is the answer; or the script is where it should be.

* `Session.call_write_of_refused`, `Session.call_write_of_compiled` — **writing is compiling and
  delivering**: the state, the answer and the lines of a call to write, from those of the call to
  compile and from what the writer does.
* `Session.Call.IsForMemory` — the writer stores the script in memory, or it raises and stores
  nothing.
* `Session.memory_call`, `Session.memory_calls` — what is in memory after one call, and after any
  run: **at each path the script that was written there last.**
* `Session.write_outcomes_apart` — all of it.
-/

namespace ScenarioScript

namespace Session

/-! ## Compiling and delivering -/

section Write

variable {session after : Session} {value : Json} {lines : Text}

/-- **A call to compile answers with the result of compiling**, and neither the store nor the number
    of failed writes changes. -/
lemma call_compile (session : Session) (value : Json) :
    (session.call (.compile value)).2.1 = .compiled (compile session.settings value)
      ∧ (session.call (.compile value)).1.store = session.store
      ∧ (session.call (.compile value)).1.metrics.writeFailures
        = session.metrics.writeFailures := by
  rcases compile_cases session.settings value with
    ⟨fault, hfault⟩ | ⟨scenario, compiled, hload, hcompile, hok⟩
  · have hvalue : compile session.settings (Call.compile value).value = .error fault := hfault
    obtain ⟨lines, hcall⟩ := exists_call_of_error hvalue
    rw [hcall, hfault]
    exact ⟨rfl, rfl, rfl⟩
  · obtain ⟨lines, hcall⟩ := call_compile_of_ok hload hcompile
    rw [hcall, hok]
    exact ⟨rfl, rfl, rfl⟩

/-- **If compiling raises, writing raises the same**, whoever the writer is. -/
lemma call_write_of_refused {fault : CompileFault}
    (h : session.call (.compile value) = (after, .compiled (.error fault), lines)) (path : Text)
    (delivery : Delivery) :
    session.call (.write value path delivery) = (after, .written (.error fault), lines) := by
  cases hload : Scenario.load value with
  | error found =>
      simp only [call, hload, Prod.mk.injEq, Answer.compiled.injEq, Except.error.injEq] at h ⊢
      obtain ⟨rfl, rfl, rfl⟩ := h
      exact ⟨rfl, rfl, rfl⟩
  | ok scenario =>
      rcases hcompile : session.compileScenario scenario with ⟨found, result, printed⟩
      simp only [call, hload, hcompile, Prod.mk.injEq, Answer.compiled.injEq] at h
      obtain ⟨rfl, hresult, rfl⟩ := h
      cases result with
      | ok compiled => cases hresult
      | error rejection =>
          obtain rfl : .rejected rejection = fault := Except.error.inj hresult
          simp only [call, hload, writeScenario, hcompile]
          rfl

/-- **If there is a script, all that is left is to deliver it.** -/
lemma call_write_of_compiled {compiled : Compiled} {path : Text} {delivery : Delivery}
    {store : Store} {failure : Option Text}
    (h : session.call (.compile value) = (after, .compiled (.ok compiled), lines))
    (hwrite : delivery path compiled.script after.store = (store, failure)) :
    ∃ more, session.call (.write value path delivery)
      = ({ after with
            store
            metrics := after.metrics.recordAll (writeReport path failure).measurements },
          .written (.ok ⟨path, failure.elim (.ok compiled) .error⟩), lines ++ more) := by
  cases hload : Scenario.load value with
  | error found => simp [call, hload] at h
  | ok scenario =>
      rcases hcompile : session.compileScenario scenario with ⟨found, result, printed⟩
      simp only [call, hload, hcompile, Prod.mk.injEq, Answer.compiled.injEq] at h
      obtain ⟨rfl, hresult, rfl⟩ := h
      cases result with
      | error rejection => cases hresult
      | ok other =>
          obtain rfl : other = compiled := Except.ok.inj hresult
          simp only [call, hload, writeScenario, hcompile, hwrite]
          cases failure with
          | none => exact ⟨_, rfl⟩
          | some message => exact ⟨_, rfl⟩

/-- **What a call to write does if compiling raises**: nothing but raise. -/
lemma call_write_of_compile_eq_error {fault : CompileFault}
    (h : compile session.settings value = .error fault) (path : Text) (delivery : Delivery) :
    (session.call (.write value path delivery)).1.store = session.store
      ∧ (session.call (.write value path delivery)).2.1 = .written (.error fault) := by
  have hvalue : compile session.settings (Call.write value path delivery).value = .error fault := h
  obtain ⟨lines, hcall⟩ := exists_call_of_error hvalue
  rw [hcall]
  exact ⟨rfl, rfl⟩

/-- **What a call to write does if there is a script**: what the writer does with it. -/
lemma call_write_of_compile_eq_ok {compiled : Compiled}
    (h : compile session.settings value = .ok compiled) (path : Text) (delivery : Delivery) :
    (session.call (.write value path delivery)).1.store
        = (delivery path compiled.script session.store).1
      ∧ (session.call (.write value path delivery)).2.1
        = .written (.ok ⟨path,
            (delivery path compiled.script session.store).2.elim (.ok compiled) .error⟩) := by
  rcases compile_cases session.settings value with
    ⟨fault, hfault⟩ | ⟨scenario, found, hload, hcompile, hok⟩
  · exact absurd (hfault.symm.trans h) (by simp)
  · obtain rfl : found = compiled := Except.ok.inj (hok.symm.trans h)
    rcases hwrite : delivery path found.script session.store with ⟨store, failure⟩
    obtain ⟨lines, hcall⟩ := call_write_of_ok hload hcompile hwrite
    rw [hcall]
    exact ⟨rfl, rfl⟩

end Write

/-! ## Memory -/

/-- **A writer for memory**: whenever it is called it stores the script in memory, or it raises and
    stores nothing. -/
def IsForMemory (delivery : Delivery) : Prop :=
  ∀ path script store, delivery path script store = Writer.memory.write path script store
    ∨ ∃ message, delivery path script store = (store, some message)

/-- If the call writes anything at all, it does so with a writer for memory. -/
def Call.IsForMemory : Call → Prop
  | .compile _ => True
  | .write _ _ delivery => Session.IsForMemory delivery

/-- The script that was written to a path, according to an answer. -/
def Answer.scriptAt? (path : Text) : Answer → Option Text
  | .written (.ok ⟨target, .ok found⟩) => if target = path then some found.script else none
  | _ => none

/-- **The script of the last successful call on a path.** -/
def lastWritten? (path : Text) (answers : List Answer) : Option Text :=
  answers.reverse.findSome? (·.scriptAt? path)

/-- **What one call leaves in memory.** -/
lemma memory_call {call : Call} (hcall : call.IsForMemory) (session : Session) (path : Text) :
    Association.get? path (session.call call).1.store.memory
      = ((session.call call).2.1.scriptAt? path).or
        (Association.get? path session.store.memory) := by
  cases call with
  | compile value =>
      obtain ⟨hanswer, hstore, -⟩ := call_compile session value
      rw [hanswer, hstore]
      rfl
  | write value target delivery =>
      cases hcompile : compile session.settings value with
      | error fault =>
          obtain ⟨hstore, hanswer⟩ := call_write_of_compile_eq_error hcompile target delivery
          rw [hstore, hanswer]
          rfl
      | ok compiled =>
          obtain ⟨hstore, hanswer⟩ := call_write_of_compile_eq_ok hcompile target delivery
          rw [hstore, hanswer]
          rcases hcall target compiled.script session.store with hwrite | ⟨message, hwrite⟩
          · rw [hwrite]
            by_cases hpath : target = path
            · subst hpath
              simp [Writer.write, Answer.scriptAt?, Association.get?_put_self]
            · simp [Writer.write, Answer.scriptAt?, hpath,
                Association.get?_put_of_ne (Ne.symm hpath)]
          · rw [hwrite]
            rfl

/-- **What a run leaves in memory**: at each path the script that was written there last. -/
lemma memory_calls {list : List Call} (hlist : ∀ call ∈ list, call.IsForMemory)
    (session : Session) (path : Text) :
    Association.get? path (session.calls list).1.store.memory
      = (lastWritten? path (session.calls list).2).or
        (Association.get? path session.store.memory) := by
  induction list generalizing session with
  | nil => rfl
  | cons call rest ih =>
      obtain ⟨hfirst, hrest⟩ := List.forall_mem_cons.mp hlist
      have hlast : lastWritten? path (session.calls (call :: rest)).2
          = (lastWritten? path ((session.call call).1.calls rest).2).or
            ((session.call call).2.1.scriptAt? path) := by
        simp [lastWritten?, calls, List.findSome?_append]
      rw [hlast, Option.or_assoc, ← memory_call hfirst]
      exact ih hrest (session.call call).1

/-- **The outcomes of writing are kept apart.**  Take any session, value and path, and compare the
    call to write with the call to compile, which changes neither the store nor the number of failed
    writes.  If compiling raises, so does writing, with the same fault and the same state, whatever
    the writer would have done: it is never called.  If the writer fails, the call nevertheless
    returns, with the path and the message, and beyond what the writer has done itself one failed
    write is counted and nothing else changes.  With the writer for memory the call returns what
    compiling returns, the script is found under the path, and every other path keeps its content.
    So after any calls with writers that store in memory or raise, each path has the script of the
    last successful call on it. -/
theorem write_outcomes_apart (session : Session) (value : Json) (path : Text) :
    (∃ after result lines, session.call (.compile value) = (after, .compiled result, lines)
      ∧ after.store = session.store
      ∧ after.metrics.writeFailures = session.metrics.writeFailures
      ∧ (∀ fault, result = .error fault → ∀ delivery,
          session.call (.write value path delivery) = (after, .written (.error fault), lines))
      ∧ ∀ compiled, result = .ok compiled →
        (∀ delivery store message,
          delivery path compiled.script session.store = (store, some message) →
            ∃ more, session.call (.write value path delivery)
              = ({ after with
                    store
                    metrics := { after.metrics with
                      writeFailures := after.metrics.writeFailures.add 1.0 } },
                  .written (.ok ⟨path, .error message⟩), lines ++ more))
        ∧ ∃ final more, session.call (.write value path Writer.memory.write)
            = (final, .written (.ok ⟨path, .ok compiled⟩), lines ++ more)
          ∧ final = { after with store := final.store } ∧ final.store.disk = session.store.disk
          ∧ Association.get? path final.store.memory = some compiled.script
          ∧ ∀ other, other ≠ path →
            Association.get? other final.store.memory
              = Association.get? other session.store.memory)
      ∧ ∀ list, (∀ call ∈ list, Call.IsForMemory call) → ∀ target,
        Association.get? target (session.calls list).1.store.memory
          = (lastWritten? target (session.calls list).2).or
            (Association.get? target session.store.memory) := by
  refine ⟨?_, fun list hlist target => memory_calls hlist session target⟩
  obtain ⟨hanswer, hstore, hfailures⟩ := call_compile session value
  rcases hcompile : session.call (.compile value) with ⟨after, answer, lines⟩
  rw [hcompile] at hanswer hstore hfailures
  obtain rfl : answer = .compiled (compile session.settings value) := hanswer
  refine ⟨after, _, lines, rfl, hstore, hfailures, ?_, ?_⟩
  · intro fault hfault delivery
    rw [hfault] at hcompile
    exact call_write_of_refused hcompile path delivery
  · intro compiled hok
    rw [hok] at hcompile
    simp only at hstore
    constructor
    · intro delivery store message hwrite
      rw [← hstore] at hwrite
      exact call_write_of_compiled hcompile hwrite
    · have hwrite : Writer.memory.write path compiled.script after.store
          = (⟨Association.put path compiled.script after.store.memory, after.store.disk⟩, none) :=
        rfl
      obtain ⟨more, hcall⟩ := call_write_of_compiled hcompile hwrite
      refine ⟨_, more, hcall, rfl, by rw [← hstore], ?_, ?_⟩
      · exact Association.get?_put_self path compiled.script after.store.memory
      · intro other hother
        rw [← hstore]
        exact Association.get?_put_of_ne hother compiled.script after.store.memory

/-- A script that stays, one beside it, one that is refused and one that is not written. -/
def fourWrites : List Call :=
  [.write unfinished "a".toText Writer.memory.write,
    .write unfinished "b".toText Writer.memory.write,
    .write rejected "a".toText Writer.memory.write,
    .write unfinished "a".toText (Writer.write (.failing "full".toText))]

/-- The case of four calls: a call that is refused or fails takes nothing away. -/
theorem write_outcomes_apart_four_writes :
    (∀ call ∈ fourWrites, Call.IsForMemory call)
      ∧ ∃ compiled, compile {} unfinished = .ok compiled
        ∧ Association.get? "a".toText (({} : Session).calls fourWrites).1.store.memory
          = some compiled.script
        ∧ (({} : Session).call (.write unfinished "a".toText
            (Writer.write (.failing "full".toText)))).2.1
          = .written (.ok ⟨"a".toText, .error "full".toText⟩) := by
  have hstores : IsForMemory Writer.memory.write := fun _ _ _ => .inl rfl
  have hraises : IsForMemory (Writer.write (.failing "full".toText)) := fun _ _ _ => .inr ⟨_, rfl⟩
  have hmemory : ∀ call ∈ fourWrites, Call.IsForMemory call :=
    List.forall_mem_cons.mpr ⟨hstores, List.forall_mem_cons.mpr ⟨hstores,
      List.forall_mem_cons.mpr ⟨hstores, List.forall_mem_singleton.mpr hraises⟩⟩⟩
  obtain ⟨⟨after, result, lines, hcompile, -, -, -, hreturned⟩, hrun⟩ :=
    write_outcomes_apart {} unfinished "a".toText
  have hresult : result = compile {} unfinished := by
    have hanswer := (call_compile {} unfinished).1
    rw [hcompile] at hanswer
    exact Answer.compiled.inj hanswer
  have hlast : lastWritten? "a".toText (({} : Session).calls fourWrites).2
      = (compile {} unfinished).toOption.map (·.script) := by
    decide +kernel
  have hsome : (compile {} unfinished).isOk = true := by decide +kernel
  cases hok : compile {} unfinished with
  | error fault =>
      rw [hok] at hsome
      exact absurd hsome (by simp [Except.isOk, Except.toBool])
  | ok compiled =>
      obtain ⟨hfailed, -⟩ := hreturned compiled (hresult.trans hok)
      obtain ⟨more, hcall⟩ := hfailed (Writer.write (.failing "full".toText)) _ _ rfl
      refine ⟨hmemory, compiled, rfl, ?_, by rw [hcall]⟩
      rw [hrun fourWrites hmemory, hlast, hok]
      rfl

end Session

end ScenarioScript
