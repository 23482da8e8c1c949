import Mathlib.Data.List.Forall2
import Mathlib.Tactic.Lemma
import ScenarioScript.CommandLine.Run
import ScenarioScript.Proofs.Compilation.Wholeness
import ScenarioScript.Proofs.Output.Writing

/-!
# What can be printed

A text is printed if the encoding of the standard output has it.  The first text that it does not
have ends the run, with everything before it printed and an exit code of one.

* `Encoding.Has` — an encoding has a text; one for Unicode has all whole texts
  (`Encoding.isUnicode_utf8`).
* `CommandLine.printAll_of_has`, `CommandLine.printAll_snd_eq_none_iff` — **when everything is
  printed.**
* `CommandLine.printAll_append` — texts behind each other.
* `CommandLine.exists_turns_print` — **what printing the scripts of scenarios comes to**, whatever
  the session has been through.
* `CommandLine.has_script`, `CommandLine.has_printed` — **what is printed about whole scenarios can
  be printed.**
-/

namespace ScenarioScript

/-- **An encoding has a text** if it can encode it. -/
def Encoding.Has (encoding : Encoding) (text : Text) : Prop :=
  ∃ content, encoding text = .ok content

/-- **An encoding for Unicode** has every whole text. -/
def Encoding.IsUnicode (encoding : Encoding) : Prop :=
  ∀ text : Text, text.IsWhole → Encoding.Has encoding text

lemma Encoding.has_utf8_iff {text : Text} : Encoding.Has .utf8 text ↔ text.IsWhole := by
  constructor
  · rintro ⟨content, hcontent⟩
    obtain ⟨chars, rfl, -⟩ := utf8_eq_ok_iff.mp hcontent
    exact Text.isWhole_ofChars chars
  · intro h
    obtain ⟨chars, rfl⟩ := h.exists_ofChars
    exact ⟨_, utf8_eq_ok_iff.mpr ⟨chars, rfl, rfl⟩⟩

lemma Encoding.isUnicode_utf8 : Encoding.IsUnicode .utf8 :=
  fun _ => Encoding.has_utf8_iff.mpr

lemma exists_of_map_eq_ok {ε α β : Type} {f : α → β} {result : Except ε α} {value : β}
    (h : result.map f = .ok value) : ∃ inner, result = .ok inner ∧ f inner = value := by
  cases result with
  | error fault => exact absurd h (by simp [Except.map])
  | ok inner => exact ⟨inner, rfl, Except.ok.inj h⟩

/-- Whatever stands in the second of two related lists has a partner in the first. -/
lemma exists_mem_of_forall₂ {α β : Type} {R : α → β → Prop} {first : List α} {second : List β}
    (h : List.Forall₂ R first second) {b : β} (hb : b ∈ second) : ∃ a ∈ first, R a b := by
  induction h with
  | nil => simp at hb
  | cons hab _ ih =>
      rcases List.mem_cons.mp hb with rfl | hb
      · exact ⟨_, by simp, hab⟩
      · obtain ⟨a, ha, hrelated⟩ := ih hb
        exact ⟨a, List.mem_cons_of_mem _ ha, hrelated⟩

namespace CommandLine

variable {console : Encoding} {texts first rest : List Text} {shown : Text}
  {fault : Encoding.Fault}

/-! ## Texts one after the other -/

/-- **Everything is printed** that the console has. -/
lemma printAll_of_has (h : ∀ text ∈ texts, Encoding.Has console text) :
    printAll console texts = (texts.flatten, none) := by
  induction texts with
  | nil => rfl
  | cons text texts ih =>
      rw [List.forall_mem_cons] at h
      obtain ⟨⟨content, hcontent⟩, hrest⟩ := h
      simp [printAll, hcontent, ih hrest]

/-- Nothing is missing exactly if the console has everything. -/
lemma printAll_snd_eq_none_iff :
    (printAll console texts).2 = none ↔ ∀ text ∈ texts, Encoding.Has console text := by
  constructor
  · intro h
    induction texts with
    | nil => simp
    | cons text texts ih =>
        rw [printAll] at h
        rw [List.forall_mem_cons]
        cases hconsole : console text with
        | error fault => simp [hconsole] at h
        | ok content =>
            simp only [hconsole] at h
            exact ⟨⟨content, hconsole⟩, ih h⟩
  · intro h
    rw [printAll_of_has h]

lemma printAll_append (h : printAll console first = (shown, none)) :
    printAll console (first ++ rest)
      = (shown ++ (printAll console rest).1, (printAll console rest).2) := by
  induction first generalizing shown with
  | nil =>
      obtain ⟨rfl, -⟩ := Prod.mk.inj h
      rfl
  | cons text first ih =>
      rw [printAll] at h
      rw [List.cons_append, printAll]
      cases hconsole : console text with
      | error fault => simp [hconsole] at h
      | ok content =>
          simp only [hconsole, Prod.mk.injEq] at h
          obtain ⟨rfl, hnone⟩ := h
          simp only [ih (Prod.ext rfl hnone), List.append_assoc]

/-! ## The end of a run -/

lemma conclude_output (code : Nat) (log : Text) (tree : FileTree)
    (printed : Text × Option Encoding.Fault) :
    (conclude code log tree printed).output = printed.1 := by
  rcases printed with ⟨text, fault | fault⟩ <;> rfl

lemma conclude_tree (code : Nat) (log : Text) (tree : FileTree)
    (printed : Text × Option Encoding.Fault) : (conclude code log tree printed).tree = tree := by
  rcases printed with ⟨text, fault | fault⟩ <;> rfl

/-! ## Scripts -/

/-- **What is to be printed for a scenario**: its script, or why there is none. -/
def printed (settings : Settings) (scenario : Scenario) : Text :=
  match scenario.compile settings with
  | .error fault => failLine scenario.name fault.message
  | .ok compiled => compiled.script

/-- A turn that prints leaves the settings and the files as they were. -/
lemma printTurn_eq (session : Session) (scenario : Scenario) :
    (printTurn session scenario).prints = [printed session.settings scenario]
      ∧ (printTurn session scenario).failed
        = !(scenario.compile session.settings).toOption.isSome
      ∧ (printTurn session scenario).session.store = session.store
      ∧ (printTurn session scenario).session.settings = session.settings := by
  rw [printTurn, Session.compileScenario, printed]
  cases scenario.compile session.settings with
  | error fault => exact ⟨rfl, rfl, rfl, rfl⟩
  | ok compiled => exact ⟨rfl, rfl, rfl, rfl⟩

/-- **The turns print scenario by scenario** as far as they can, and no file is touched.  If
    everything is printed, they fail exactly if some scenario does not compile. -/
lemma exists_turns_print (console : Encoding) (output : Option Text) (verbose many : Bool)
    (session : Session) (scenarios : List Scenario) :
    ∃ all, turns console output true verbose many session scenarios = .ok all
      ∧ all.printed = printAll console (scenarios.map (printed session.settings))
      ∧ all.session.store = session.store
      ∧ (all.printed.2 = none →
        all.failed
          = !scenarios.all fun scenario =>
              (scenario.compile session.settings).toOption.isSome) := by
  induction scenarios generalizing session with
  | nil => exact ⟨_, rfl, rfl, rfl, fun _ => rfl⟩
  | cons scenario rest ih =>
      obtain ⟨hprints, hfailed, hstore, hsettings⟩ := printTurn_eq session scenario
      obtain ⟨later, hlater, hprinted, hkept, hcount⟩ := ih (printTurn session scenario).session
      rw [hsettings] at hprinted hcount
      rw [turns, turn, if_pos rfl]
      simp only [hprints]
      have hcons : scenario :: rest = [scenario] ++ rest := rfl
      rcases hfirst : printAll console [printed session.settings scenario] with
        ⟨shown, fault | fault⟩
      · simp only [hlater, Except.map]
        refine ⟨_, rfl, ?_, hkept.trans hstore, ?_⟩
        · rw [hcons, List.map_append, List.map_singleton, printAll_append hfirst, ← hprinted]
        · intro hnone
          rw [hfailed, hcount hnone, List.all_cons, Bool.not_and]
      · refine ⟨_, rfl, ?_, hstore, by simp⟩
        rw [printAll] at hfirst
        rw [List.map_cons, printAll]
        cases hconsole : console (printed session.settings scenario) with
        | error found =>
            simp only [hconsole] at hfirst
            exact hfirst.symm
        | ok content => simp [hconsole, printAll] at hfirst

/-! ## Whole scenarios -/

/-- The environment says how many blanks to indent by, so that the indent is whole. -/
lemma isWhole_indent {environment : Environment} {settings : Settings}
    (h : Settings.ofEnvironment environment = .ok settings) : settings.indent.IsWhole := by
  rw [Settings.ofEnvironment] at h
  split at h
  · simp at h
  · next width _ =>
      split at h
      · simp at h
      · split at h
        · simp at h
        · obtain rfl := Except.ok.inj h
          exact Text.isWhole_times (by simp) width

/-- The settings that a run reads are those of the environment. -/
lemma ofEnvironment_of_readInput {world : World} {path : Text} {scenarios : List Scenario}
    {settings : Settings} (h : readInput world path = .ok (scenarios, settings)) :
    Settings.ofEnvironment world.environment = .ok settings := by
  rw [readInput] at h
  cases hscenarios : readScenarios world.tree path with
  | error fault => simp [hscenarios] at h
  | ok found =>
      simp only [hscenarios] at h
      obtain ⟨read, hread, heq⟩ := exists_of_map_eq_ok h
      obtain ⟨-, rfl⟩ := Prod.mk.inj heq
      rw [readSettings] at hread
      cases hsettings : Settings.ofEnvironment world.environment with
      | error fault => simp [hsettings, Except.mapError] at hread
      | ok other =>
          rw [hsettings] at hread
          rw [Except.ok.inj hread]

section Whole

variable {scenario : Scenario} {settings : Settings} {compiled : Compiled}

/-- **The script of a whole scenario can be printed.** -/
lemma has_script (hconsole : Encoding.IsUnicode console) (hindent : settings.indent.IsWhole)
    (h : scenario.IsWhole) (hcompile : scenario.compile settings = .ok compiled) :
    Encoding.Has console compiled.script :=
  hconsole _ (Scenario.isWhole_script h hindent hcompile)

/-- **So can what is printed if there is none.** -/
lemma has_printed (hconsole : Encoding.IsUnicode console) (hindent : settings.indent.IsWhole)
    (h : scenario.IsWhole) : Encoding.Has console (printed settings scenario) := by
  apply hconsole
  rw [printed]
  cases hcompile : scenario.compile settings with
  | error fault =>
      simp [failLine, line, h.name, Scenario.isWhole_message h hcompile]
  | ok compiled => exact Scenario.isWhole_script h hindent hcompile

end Whole

end CommandLine

end ScenarioScript
