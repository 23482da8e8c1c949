import Mathlib.Data.List.Forall2
import ScenarioScript.Proofs.CommandLine.Printing
import ScenarioScript.Proofs.Output.Path
import ScenarioScript.Proofs.Output.Writing

/-!
# Which scripts are there in the end

Scripts are written one after the other into one folder, under names that keep only the letters and
digits of the scenarios' names.  Whatever a scenario does to the files, it stores one file at most
and keeps all others, so that **what was left last at a path is what is there**.  That is nothing if
a script could not be encoded.  An earlier script is lost if it is different: where all scripts can
be encoded, everything that is reported is there exactly if scripts with the same slug are the same.

* `CommandLine.Notice` — what is printed about a scenario.
* `CommandLine.exists_notice_of_turn` — what one scenario does to the files.
* `CommandLine.Deliveries.holds_of_lastText?` — **what was left last at a path stays.**
* `CommandLine.reported_scripts_kept_iff` — when all scripts are kept.
-/

namespace ScenarioScript

lemma Utf8.encode_injective {chars others : List Char} (h : encode chars = encode others) :
    chars = others := by
  have hbytes : chars.utf8Encode = others.utf8Encode := congrArg List.toByteArray h
  have hdecoded := congrArg ByteArray.utf8Decode? hbytes
  rw [List.utf8Decode?_utf8Encode, List.utf8Decode?_utf8Encode] at hdecoded
  exact congrArg Array.toList (Option.some.inj hdecoded)

lemma Encoding.utf8_injective {text other : Text} {content : Bytes}
    (h : utf8 text = .ok content) (hother : utf8 other = .ok content) : text = other := by
  obtain ⟨chars, rfl, rfl⟩ := utf8_eq_ok_iff.mp h
  obtain ⟨others, rfl, heq⟩ := utf8_eq_ok_iff.mp hother
  rw [Utf8.encode_injective heq]

/-- **A file holds a text.** -/
def FileTree.HoldsText (tree : FileTree) (path : Path) (text : Text) : Prop :=
  ∃ content, Encoding.utf8 text = .ok content ∧ tree.read path = .ok content

lemma FileTree.HoldsText.unique {tree : FileTree} {path : Path} {text other : Text}
    (h : tree.HoldsText path text) (hother : tree.HoldsText path other) : text = other := by
  obtain ⟨content, htext, hread⟩ := h
  obtain ⟨found, hfound, hread'⟩ := hother
  obtain rfl := Except.ok.inj (hread.symm.trans hread')
  exact Encoding.utf8_injective htext hfound

namespace CommandLine

/-! ## Notices -/

/-- **What is printed about a scenario**, except when its script is printed itself. -/
inductive Notice where
  | passed (compiled : Compiled) (path : Text)
  /-- The script could not be encoded, and the file is empty. -/
  | spoilt (name message path : Text)
  | failed (name message : Text)
deriving Repr, DecidableEq

namespace Notice

def lines (verbose : Bool) : Notice → List Text
  | .passed compiled path => passLines compiled path verbose
  | .spoilt name message _ => [failLine name message]
  | .failed name message => [failLine name message]

/-- The name of the scenario. -/
def name : Notice → Text
  | .passed compiled _ => compiled.name
  | .spoilt name _ _ => name
  | .failed name _ => name

/-- **The path that was written to, and the text that is there.** -/
def left? : Notice → Option (Text × Text)
  | .passed compiled path => some (path, compiled.script)
  | .spoilt _ _ path => some (path, [])
  | .failed _ _ => none

/-- The notice is about this scenario: it has what the scenario compiles to and the path that its
    script goes to, or the reason for which the scenario is refused or its script not written. -/
def IsAbout (tree : FileTree) (output : Option Text) (many : Bool) (settings : Settings)
    (scenario : Scenario) : Notice → Prop
  | .passed compiled path =>
      scenario.compile settings = .ok compiled
        ∧ (outputPath tree output scenario.name many).map Path.toText = .ok path
  | .spoilt name message path =>
      name = scenario.name
        ∧ (∃ compiled fault, scenario.compile settings = .ok compiled
          ∧ Encoding.utf8 compiled.script = .error fault ∧ message = fault.message)
        ∧ (outputPath tree output scenario.name many).map Path.toText = .ok path
  | .failed name message =>
      name = scenario.name
        ∧ ∀ fault, scenario.compile settings = .error fault → message = fault.message

/-- What the notice says about the files. -/
def Leaves (before after : FileTree) (notice : Notice) : Prop :=
  match notice.left? with
  | some (path, text) =>
      ∃ content, Encoding.utf8 text = .ok content
        ∧ ∃ place, before.Stores (Path.ofText path) content after place
  | none => before.Extends after

/-- The text that the notice says is at a path. -/
def textAt? (path : Text) (notice : Notice) : Option Text :=
  match notice.left? with
  | some (target, text) => if target = path then some text else none
  | none => none

end Notice

/-- **The text last left at a path.** -/
def lastText? (path : Text) : List Notice → Option Text
  | [] => none
  | notice :: notices => (lastText? path notices).or (notice.textAt? path)

/-! ## One scenario -/

lemma store_reportWithin (session : Session) (name : Text) (report : Report) :
    (session.reportWithin name report).1.store = session.store :=
  rfl

/-- **What one scenario does**: it stores its script and is reported as passed; or it empties the
    file, because its script cannot be encoded; or it destroys nothing and is reported as failed. -/
lemma exists_notice_of_turn {session : Session} {output : Option Text} {many verbose : Bool}
    {scenario : Scenario} {result : Turn}
    (h : turn session output false verbose many scenario = .ok result) :
    ∃ notice : Notice, result.prints = notice.lines verbose
      ∧ notice.IsAbout session.store.disk output many session.settings scenario
      ∧ notice.Leaves session.store.disk result.session.store.disk
      ∧ result.session.settings = session.settings := by
  rw [turn, if_neg (by simp)] at h
  obtain ⟨target, htarget, rfl⟩ := exists_of_map_eq_ok h
  have hpath : (outputPath session.store.disk output scenario.name many).map Path.toText
      = .ok target.toText := by
    rw [htarget]
    rfl
  cases hcompile : scenario.compile session.settings with
  | error fault =>
      simp only [writeTurn, Session.writeScenario, Session.compileScenario, hcompile]
      refine ⟨.failed scenario.name fault.message, rfl, ⟨rfl, ?_⟩, FileTree.Extends.refl _, rfl⟩
      intro found hfound
      rw [hcompile] at hfound
      rw [Except.error.inj hfound]
  | ok compiled =>
      cases hwrite : Writer.write (.file .utf8) target.toText compiled.script session.store with
      | mk stored failure =>
          simp only [writeTurn, Session.writeScenario, Session.compileScenario, hcompile,
            store_reportWithin, hwrite]
          rcases Writer.write_file_cases hwrite with
            ⟨rfl, content, hencode, hstores⟩ | ⟨trouble, rfl, -, hextends⟩
            | ⟨fault, hencode, rfl, -, hstores⟩
          · exact ⟨.passed compiled target.toText, rfl, ⟨hcompile, hpath⟩,
              ⟨content, hencode, hstores⟩, rfl⟩
          · refine ⟨.failed scenario.name trouble.message, rfl, ⟨rfl, ?_⟩, hextends, rfl⟩
            simp [hcompile]
          · exact ⟨.spoilt scenario.name fault.message target.toText, rfl,
              ⟨rfl, ⟨compiled, fault, hcompile, hencode, rfl⟩, hpath⟩, ⟨[], rfl, hstores⟩, rfl⟩

/-! ## Where scripts go -/

/-- The folder of the scripts. -/
def folder (output : Option Text) : Path :=
  match output with
  | none => ⟨.working, []⟩
  | some output => Path.ofText output

/-- The file of a scenario in the folder. -/
def scriptPath (output : Option Text) (name : Text) : Path :=
  ⟨(folder output).anchor,
    (folder output).names ++ [FileName.ofScenario name FileName.defaultSuffix]⟩

lemma wellFormed_folder (output : Option Text) : (folder output).WellFormed := by
  cases output with
  | none => simp [folder, Path.WellFormed]
  | some output => exact Path.wellFormed_ofText output

lemma scriptPath_eq_child (output : Option Text) (name : Text) :
    scriptPath output name
      = (folder output).child (FileName.ofScenario name FileName.defaultSuffix) :=
  (Path.child_of_isPlain _ (FileName.isPlain_ofScenario name)).symm

lemma ofText_toText_scriptPath (output : Option Text) (name : Text) :
    Path.ofText (scriptPath output name).toText = scriptPath output name := by
  rw [scriptPath_eq_child]
  exact Path.ofText_toText ((wellFormed_folder output).child _)

/-- **All scripts go into one folder** if there are many or no output path is given. -/
lemma outputPath_eq {output : Option Text} {many : Bool} (h : many = true ∨ output = none)
    (tree : FileTree) (name : Text) :
    outputPath tree output name many = .ok (scriptPath output name) := by
  cases output with
  | none =>
      have htext : (scriptPath none name).toText
          = FileName.ofScenario name FileName.defaultSuffix := by
        simp [scriptPath, folder, Path.toText, Anchor.toText]
      rw [outputPath, ← htext, ofText_toText_scriptPath]
  | some output =>
      have hmany : many = true := by simpa using h
      rw [scriptPath_eq_child, outputPath, if_pos hmany]
      rfl

/-- **Two scripts of one folder share a path exactly if their slugs agree.** -/
lemma toText_scriptPath_inj {output : Option Text} {name other : Text} :
    (scriptPath output name).toText = (scriptPath output other).toText
      ↔ FileName.slug name = FileName.slug other := by
  rw [← FileName.ofScenario_inj]
  constructor
  · intro h
    have hpath := congrArg Path.ofText h
    rw [ofText_toText_scriptPath, ofText_toText_scriptPath] at hpath
    simpa [scriptPath] using hpath
  · intro h
    rw [scriptPath, scriptPath, h]

/-- What is there before a script goes into the folder does not matter. -/
lemma Notice.IsAbout.of_tree {tree other : FileTree} {output : Option Text} {many : Bool}
    {settings : Settings} {scenario : Scenario} {notice : Notice}
    (hmany : many = true ∨ output = none)
    (h : notice.IsAbout tree output many settings scenario) :
    notice.IsAbout other output many settings scenario := by
  cases notice with
  | failed name message => exact h
  | passed compiled path =>
      rw [IsAbout, outputPath_eq hmany] at h ⊢
      exact h
  | spoilt name message path =>
      rw [IsAbout, outputPath_eq hmany] at h ⊢
      exact h

/-- What the notice is about went into the folder. -/
def Notice.IsWithin (output : Option Text) (notice : Notice) : Prop :=
  ∀ path text, notice.left? = some (path, text) → path = (scriptPath output notice.name).toText

lemma Notice.IsAbout.isWithin {tree : FileTree} {output : Option Text} {many : Bool}
    {settings : Settings} {scenario : Scenario} {notice : Notice}
    (hmany : many = true ∨ output = none)
    (h : notice.IsAbout tree output many settings scenario) : notice.IsWithin output := by
  intro path text hleft
  cases notice with
  | failed name message => simp [left?] at hleft
  | passed compiled target =>
      obtain ⟨hcompile, hpath⟩ := h
      rw [outputPath_eq hmany] at hpath
      obtain ⟨rfl, -⟩ := Prod.mk.inj (Option.some.inj hleft)
      rw [name, (Scenario.compile_eq_ok_iff.mp hcompile).2.name]
      exact (Except.ok.inj hpath).symm
  | spoilt scenarioName message target =>
      obtain ⟨rfl, -, hpath⟩ := h
      rw [outputPath_eq hmany] at hpath
      obtain ⟨rfl, -⟩ := Prod.mk.inj (Option.some.inj hleft)
      exact (Except.ok.inj hpath).symm

/-! ## All scenarios -/

/-- **What a run does to the files**, notice by notice. -/
inductive Deliveries : FileTree → List Notice → FileTree → Prop
  | nil (tree : FileTree) : Deliveries tree [] tree
  | cons {before middle after : FileTree} {notice : Notice} {notices : List Notice}
      (first : notice.Leaves before middle) (rest : Deliveries middle notices after) :
    Deliveries before (notice :: notices) after

namespace Deliveries

variable {before after : FileTree} {notices : List Notice} {output : Option Text} {path name : Text}

/-- A file at whose path nothing more is left stays. -/
lemma read_of_lastText?_eq_none {content : Bytes} (h : Deliveries before notices after)
    (hwithin : ∀ notice ∈ notices, notice.IsWithin output)
    (hlast : lastText? (scriptPath output name).toText notices = none)
    (hread : before.read (scriptPath output name) = .ok content) :
    after.read (scriptPath output name) = .ok content := by
  induction h with
  | nil tree => exact hread
  | @cons before middle after notice notices first rest ih =>
      obtain ⟨hlater, hnotice⟩ := Option.or_eq_none_iff.mp hlast
      refine ih (fun later hmem => hwithin later (List.mem_cons_of_mem notice hmem)) hlater ?_
      have hhere := hwithin notice (by simp)
      cases hleft : notice.left? with
      | none =>
          rw [Notice.Leaves, hleft] at first
          exact FileTree.Extends.read first hread
      | some entry =>
          obtain ⟨path, text⟩ := entry
          rw [Notice.Leaves, hleft] at first
          obtain ⟨stored, -, place, hstores⟩ := first
          obtain rfl := hhere path text hleft
          rw [ofText_toText_scriptPath] at hstores
          refine hstores.read_beside (FileName.ofScenario_ne_up _) (FileName.ofScenario_ne_up _)
            ?_ hread
          intro hsame
          simp only [Notice.textAt?, hleft] at hnotice
          rw [if_pos] at hnotice
          · simp at hnotice
          · rw [toText_scriptPath_inj, ← FileName.ofScenario_inj]
            exact hsame.symm

/-- **What was left last at a path is what is there.** -/
lemma holds_of_lastText? {text : Text} (h : Deliveries before notices after)
    (hwithin : ∀ notice ∈ notices, notice.IsWithin output)
    (hlast : lastText? path notices = some text) :
    after.HoldsText (Path.ofText path) text := by
  induction h with
  | nil tree => exact absurd hlast (by simp [lastText?])
  | @cons before middle after notice notices first rest ih =>
      have hrest : ∀ later ∈ notices, later.IsWithin output :=
        fun later hmem => hwithin later (List.mem_cons_of_mem notice hmem)
      -- the notice at hand counts only if no later one is about the path
      cases hlater : lastText? path notices with
      | some found =>
          rw [lastText?, hlater] at hlast
          exact ih hrest (hlater.trans hlast)
      | none =>
          rw [lastText?, hlater, Option.none_or, Notice.textAt?] at hlast
          cases hleft : notice.left? with
          | none => simp [hleft] at hlast
          | some entry =>
              obtain ⟨target, left⟩ := entry
              obtain ⟨rfl, rfl⟩ : target = path ∧ left = text := by simpa [hleft] using hlast
              rw [Notice.Leaves, hleft] at first
              obtain ⟨content, hencode, place, hstores⟩ := first
              obtain rfl := hwithin notice (by simp) target left hleft
              refine ⟨content, hencode, ?_⟩
              have hread := hstores.read
              rw [ofText_toText_scriptPath] at hread ⊢
              exact rest.read_of_lastText?_eq_none hrest hlater hread

end Deliveries

/-- **What all scenarios do**, if there is one folder for them or at most one scenario.  The notices
    are about all scenarios, unless one of them cannot be printed. -/
lemma exists_notices_of_turns {console : Encoding} {session : Session} {output : Option Text}
    {many verbose : Bool} {scenarios : List Scenario} {all : Progress}
    (hplan : (many = true ∨ output = none) ∨ scenarios.length ≤ 1)
    (h : turns console output false verbose many session scenarios = .ok all) :
    ∃ notices : List Notice,
      all.printed = printAll console (notices.flatMap (Notice.lines verbose))
        ∧ List.Forall₂ (Notice.IsAbout session.store.disk output many session.settings)
          (scenarios.take notices.length) notices
        ∧ (all.printed.2 = none → notices.length = scenarios.length)
        ∧ Deliveries session.store.disk notices all.session.store.disk := by
  induction scenarios generalizing session all with
  | nil =>
      obtain rfl := Except.ok.inj h
      exact ⟨[], rfl, .nil, fun _ => rfl, .nil _⟩
  | cons scenario rest ih =>
      rw [turns] at h
      cases hturn : turn session output false verbose many scenario with
      | error crash =>
          rw [hturn] at h
          exact absurd h (by simp)
      | ok first =>
          obtain ⟨notice, hprints, habout, hleaves, hsettings⟩ := exists_notice_of_turn hturn
          simp only [hturn] at h
          rcases hprinted : printAll console first.prints with ⟨printed, fault | fault⟩
          · simp only [hprinted] at h
            obtain ⟨later, hturns, rfl⟩ := exists_of_map_eq_ok h
            have hplan' : (many = true ∨ output = none) ∨ rest.length ≤ 1 :=
              hplan.imp_right fun hlength => Nat.le_of_succ_le hlength
            obtain ⟨notices, hlater, habouts, hlength, hdeliveries⟩ := ih hplan' hturns
            refine ⟨notice :: notices, ?_, .cons habout ?_, ?_, .cons hleaves hdeliveries⟩
            · rw [List.flatMap_cons, ← hprints, printAll_append hprinted, ← hlater]
            · -- by then the files have changed, but the folder does not depend on them
              rw [hsettings] at habouts
              rcases hplan with hmany | hlength
              · exact habouts.imp fun next notice hnotice => hnotice.of_tree hmany
              · obtain rfl : rest = [] := by simpa using hlength
                rw [List.take_nil] at habouts ⊢
                cases habouts
                exact .nil
            · intro hnone
              rw [List.length_cons, List.length_cons, hlength hnone]
          · simp only [hprinted] at h
            obtain rfl := Except.ok.inj h
            refine ⟨[notice], ?_, .cons habout .nil, by simp, .cons hleaves (.nil _)⟩
            rw [List.flatMap_singleton, ← hprints, hprinted]

/-! ## What is kept -/

section Kept

variable {tree : FileTree} {notices : List Notice}

lemma exists_lastText? {compiled : Compiled} {path : Text} (h : .passed compiled path ∈ notices) :
    ∃ text, lastText? path notices = some text := by
  induction notices with
  | nil => exact absurd h (by simp)
  | cons notice notices ih =>
      rw [lastText?]
      rcases List.mem_cons.mp h with rfl | h
      · cases lastText? path notices with
        | none => exact ⟨compiled.script, by simp [Notice.textAt?, Notice.left?]⟩
        | some text => exact ⟨text, rfl⟩
      · obtain ⟨text, htext⟩ := ih h
        exact ⟨text, by rw [htext]; rfl⟩

lemma exists_left?_of_lastText? {path text : Text} (h : lastText? path notices = some text) :
    ∃ notice ∈ notices, notice.left? = some (path, text) := by
  induction notices with
  | nil => exact absurd h (by simp [lastText?])
  | cons notice notices ih =>
      rw [lastText?, Option.or_eq_some_iff] at h
      rcases h with h | ⟨-, h⟩
      · obtain ⟨found, hmem, hfound⟩ := ih h
        exact ⟨found, List.mem_cons_of_mem notice hmem, hfound⟩
      · refine ⟨notice, by simp, ?_⟩
        rw [Notice.textAt?] at h
        cases hleft : notice.left? with
        | none => simp [hleft] at h
        | some entry =>
            obtain ⟨target, left⟩ := entry
            obtain ⟨rfl, rfl⟩ : target = path ∧ left = text := by simpa [hleft] using h
            rfl

/-- **All scripts are there**, each at the path it is reported at. -/
def AllKept (tree : FileTree) (notices : List Notice) : Prop :=
  ∀ compiled path, .passed compiled path ∈ notices →
    tree.HoldsText (Path.ofText path) compiled.script

/-- **All scripts could be encoded.** -/
def NoneSpoilt (notices : List Notice) : Prop :=
  ∀ name message path, .spoilt name message path ∉ notices

/-- Where what was left last at a path is there, all scripts are there exactly if each was left
    last at its path. -/
lemma allKept_iff_lastText?
    (hlast : ∀ path text, lastText? path notices = some text →
      tree.HoldsText (Path.ofText path) text) :
    AllKept tree notices
      ↔ ∀ compiled path, .passed compiled path ∈ notices →
          lastText? path notices = some compiled.script := by
  constructor
  · intro hkept compiled path hmem
    obtain ⟨text, htext⟩ := exists_lastText? hmem
    rw [htext, (hlast path text htext).unique (hkept compiled path hmem)]
  · intro hscript compiled path hmem
    exact hlast path compiled.script (hscript compiled path hmem)

/-- If all could be encoded, that is so exactly if those at one path agree. -/
lemma allKept_iff
    (hlast : ∀ path text, lastText? path notices = some text →
      tree.HoldsText (Path.ofText path) text) (hnone : NoneSpoilt notices) :
    AllKept tree notices
      ↔ ∀ first second path, .passed first path ∈ notices → .passed second path ∈ notices →
          first.script = second.script := by
  constructor
  · intro hkept first second path hfirst hsecond
    exact (hkept first path hfirst).unique (hkept second path hsecond)
  · intro hagree
    rw [allKept_iff_lastText? hlast]
    intro compiled path hmem
    obtain ⟨text, htext⟩ := exists_lastText? hmem
    obtain ⟨notice, hnotice, hleft⟩ := exists_left?_of_lastText? htext
    cases notice with
    | failed name message => simp [Notice.left?] at hleft
    | spoilt name message target => exact absurd hnotice (hnone name message target)
    | passed last target =>
        obtain ⟨rfl, rfl⟩ := Prod.mk.inj (Option.some.inj hleft)
        rw [htext, hagree compiled last target hmem hnotice]

end Kept

/-! ## The run -/

section Run

variable {tree after : FileTree} {output : Option Text} {many : Bool} {settings : Settings}
  {scenarios : List Scenario} {notices : List Notice}

lemma isWithin_of_forall₂ (hmany : many = true ∨ output = none)
    (h : List.Forall₂ (Notice.IsAbout tree output many settings) scenarios notices) :
    ∀ notice ∈ notices, notice.IsWithin output := by
  intro notice hmem
  obtain ⟨scenario, -, habout⟩ := exists_mem_of_forall₂ h hmem
  exact habout.isWithin hmany

/-- **The scripts of whole scenarios can be encoded.** -/
lemma noneSpoilt_of_isWhole (hindent : settings.indent.IsWhole)
    (h : List.Forall₂ (Notice.IsAbout tree output many settings) scenarios notices)
    (hwhole : ∀ scenario ∈ scenarios, scenario.IsWhole) : NoneSpoilt notices := by
  intro name message path hmem
  obtain ⟨scenario, hscenario, -, ⟨compiled, fault, hcompile, hencode, -⟩, -⟩ :=
    exists_mem_of_forall₂ h hmem
  obtain ⟨content, hcontent⟩ :=
    has_script Encoding.isUnicode_utf8 hindent (hwhole scenario hscenario) hcompile
  rw [hcontent] at hencode
  exact absurd hencode (by simp)

/-- What was left last at a path is there after a run. -/
lemma holds_of_lastText?_of_forall₂ {path text : Text}
    (hplan : (many = true ∨ output = none) ∨ scenarios.length ≤ 1)
    (habouts : List.Forall₂ (Notice.IsAbout tree output many settings) scenarios notices)
    (hdeliveries : Deliveries tree notices after) (hlast : lastText? path notices = some text) :
    after.HoldsText (Path.ofText path) text := by
  rcases hplan with hmany | hlength
  · exact hdeliveries.holds_of_lastText? (isWithin_of_forall₂ hmany habouts) hlast
  · rw [habouts.length_eq] at hlength
    cases hdeliveries with
    | nil => exact absurd hlast (by simp [lastText?])
    | @cons _ middle _ notice notices first rest =>
        obtain rfl : notices = [] := by simpa using hlength
        cases rest
        obtain ⟨found, hfound, hleft⟩ := exists_left?_of_lastText? hlast
        obtain rfl := List.mem_singleton.mp hfound
        rw [Notice.Leaves, hleft] at first
        obtain ⟨content, hencode, place, hstores⟩ := first
        exact ⟨content, hencode, hstores.read⟩

/-- **Two scripts of a run share a path exactly if their slugs agree.** -/
lemma path_eq_iff_of_forall₂ {first second : Compiled} {path other : Text}
    (hplan : (many = true ∨ output = none) ∨ scenarios.length ≤ 1)
    (habouts : List.Forall₂ (Notice.IsAbout tree output many settings) scenarios notices)
    (hfirst : .passed first path ∈ notices) (hsecond : .passed second other ∈ notices) :
    path = other ↔ FileName.slug first.name = FileName.slug second.name := by
  rcases hplan with hmany | hlength
  · have hwithin := isWithin_of_forall₂ hmany habouts
    obtain rfl : path = (scriptPath output first.name).toText := hwithin _ hfirst _ _ rfl
    obtain rfl : other = (scriptPath output second.name).toText := hwithin _ hsecond _ _ rfl
    exact toText_scriptPath_inj
  · rw [habouts.length_eq] at hlength
    obtain ⟨rfl, rfl⟩ : first = second ∧ path = other := by
      rcases notices with - | ⟨notice, - | ⟨next, rest⟩⟩
      · exact absurd hfirst (by simp)
      · have hsame := (List.mem_singleton.mp hfirst).trans (List.mem_singleton.mp hsecond).symm
        exact Notice.passed.inj hsame
      · exact absurd hlength (by simp)
    simp

end Run

/-- **When all reported scripts are there.**  What is printed are notices about the scenarios, one
    after the other, as long as they can be printed.  What was left last at a path is there when the
    run has ended, so that all scripts are there exactly if each was left last at its path.  If all
    scripts can be encoded, as they can unless a scenario has half of a surrogate pair in it, this
    means that scripts of scenarios with the same slug agree. -/
theorem reported_scripts_kept_iff {world : World} {file : Text} {output : Option Text}
    {verbose jsonLogs : Bool} {scenarios : List Scenario} {settings : Settings} {outcome : Outcome}
    (hinput : readInput world file = .ok (scenarios, settings))
    (hrun : run world ⟨jsonLogs, .compile file output false verbose⟩ = .ok outcome) :
    ∃ notices : List Notice,
      outcome.output = (printAll world.console (notices.flatMap (Notice.lines verbose))).1
        ∧ ((printAll world.console (notices.flatMap (Notice.lines verbose))).2 = none →
            notices.length = scenarios.length)
        ∧ List.Forall₂ (Notice.IsAbout world.tree output (1 < scenarios.length) settings)
            (scenarios.take notices.length) notices
        ∧ (∀ path text, lastText? path notices = some text →
            outcome.tree.HoldsText (Path.ofText path) text)
        ∧ (AllKept outcome.tree notices
          ↔ ∀ compiled path, .passed compiled path ∈ notices →
              lastText? path notices = some compiled.script)
        ∧ ((∀ scenario ∈ scenarios, scenario.IsWhole) → NoneSpoilt notices)
        ∧ (NoneSpoilt notices →
          (AllKept outcome.tree notices
            ↔ ∀ first path second other,
                .passed first path ∈ notices → .passed second other ∈ notices →
                FileName.slug first.name = FileName.slug second.name →
                  first.script = second.script)) := by
  simp only [run, runCompile, hinput] at hrun
  obtain ⟨all, hturns, rfl⟩ := exists_of_map_eq_ok hrun
  have hplan : (decide (1 < scenarios.length) = true ∨ output = none) ∨ scenarios.length ≤ 1 := by
    by_cases hmany : 1 < scenarios.length
    · exact .inl (.inl (by simpa using hmany))
    · exact .inr (Nat.not_lt.mp hmany)
  obtain ⟨notices, hprinted, habouts, hlength, hdeliveries⟩ := exists_notices_of_turns hplan hturns
  have hshort : (decide (1 < scenarios.length) = true ∨ output = none)
      ∨ (scenarios.take notices.length).length ≤ 1 :=
    hplan.imp_right fun hle => (List.length_take_le' _ _).trans hle
  have hlast : ∀ path text, lastText? path notices = some text →
      all.session.store.disk.HoldsText (Path.ofText path) text :=
    fun path text => holds_of_lastText?_of_forall₂ hshort habouts hdeliveries
  rw [conclude_output, conclude_tree]
  refine ⟨notices, by rw [hprinted], by rwa [← hprinted], habouts, hlast,
    allKept_iff_lastText? hlast, fun hwhole => ?_, fun hnone => ?_⟩
  · refine noneSpoilt_of_isWhole (isWhole_indent (ofEnvironment_of_readInput hinput)) habouts ?_
    exact fun scenario hmem => hwhole scenario (List.mem_of_mem_take hmem)
  refine (allKept_iff hlast hnone).trans ⟨?_, ?_⟩
  · intro hagree first path second other hfirst hsecond hslug
    obtain rfl := (path_eq_iff_of_forall₂ hshort habouts hfirst hsecond).mpr hslug
    exact hagree first second path hfirst hsecond
  · intro hagree first second path hfirst hsecond
    have hslug := (path_eq_iff_of_forall₂ hshort habouts hfirst hsecond).mp rfl
    exact hagree first path second path hfirst hsecond hslug

/-! ## Two scenarios in one file -/

def clicking (name : Text) : Scenario :=
  ⟨name, "<end>".toText, ["<click_a>".toText], ["<end>".toText]⟩

lemma isWhole_clicking {name : Text} (h : name.IsWhole) : (clicking name).IsWhole :=
  ⟨h, by simp [clicking]⟩

/-- The scenario as a file has it. -/
def clickingText (name : String) : String :=
  "\x7b\"name\": \"" ++ name
    ++ "\", \"given\": \"<end>\", \"when\": \"<click_a>\", \"then\": \"<end>\"\x7d"

/-- A world with one file, which has two scenarios. -/
def pairWorld (first second : String) : World :=
  { tree := FileTree.set {} ⟨.above 0, ["s.json".toText]⟩ (.file (Utf8.encode
      ("[" ++ clickingText first ++ ", " ++ clickingText second ++ "]").toList)) }

def compiling : Invocation :=
  ⟨false, .compile "s.json".toText none false false⟩

def clicked (name : Text) : Compiled :=
  (Compilation.of {} (clicking name)).result {}

lemma compile_clicking (name : Text) : (clicking name).compile {} = .ok (clicked name) := by
  have hvalid : Suggester.validateAll (Settings.suggester {})
      ["<end>".toText, "<click_a>".toText, "<end>".toText] = .ok () :=
    eq_ok_of_toOption (by decide +kernel)
  rw [Scenario.compile, Scenario.elaborate, Scenario.map_statements]
  simp only [clicking, List.cons_append, List.nil_append, hvalid]
  rfl

/-- The case of two slugs: both scripts are there. -/
theorem both_scripts_kept_of_two_slugs :
    readInput (pairWorld "A" "B") "s.json".toText
        = .ok ([clicking "A".toText, clicking "B".toText], {})
      ∧ ∃ outcome notices, run (pairWorld "A" "B") compiling = .ok outcome
        ∧ outcome.output = "[PASS] A -> a.spec.ts\n[PASS] B -> b.spec.ts\n".toText
        ∧ outcome.output = (printAll .utf8 (notices.flatMap (Notice.lines false))).1
        ∧ NoneSpoilt notices ∧ AllKept outcome.tree notices := by
  have hinput : readInput (pairWorld "A" "B") "s.json".toText
      = .ok ([clicking "A".toText, clicking "B".toText], {}) :=
    eq_ok_of_toOption (by decide +kernel)
  have hoption : (run (pairWorld "A" "B") compiling).toOption.map (·.output)
      = some "[PASS] A -> a.spec.ts\n[PASS] B -> b.spec.ts\n".toText := by
    decide +kernel
  obtain ⟨outcome, hrun, houtput⟩ := Option.map_eq_some_iff.mp hoption
  have hrun := eq_ok_of_toOption hrun
  obtain ⟨notices, hnotices, -, habouts, -, -, hspoilt, hkept⟩ :=
    reported_scripts_kept_iff hinput hrun
  have habout : ∀ notice ∈ notices, ∃ name ∈ ["A".toText, "B".toText],
      notice.IsAbout (pairWorld "A" "B").tree none true {} (clicking name) := by
    intro notice hmem
    obtain ⟨scenario, hscenario, hnotice⟩ := exists_mem_of_forall₂ habouts hmem
    rcases List.mem_pair.mp (List.mem_of_mem_take hscenario) with rfl | rfl
    · exact ⟨"A".toText, by simp, hnotice⟩
    · exact ⟨"B".toText, by simp, hnotice⟩
  have hnone : NoneSpoilt notices :=
    hspoilt (by simp [isWhole_clicking])
  refine ⟨hinput, outcome, notices, hrun, houtput, hnotices, hnone, (hkept hnone).mpr ?_⟩
  have hpassed : ∀ compiled path, .passed compiled path ∈ notices →
      compiled = clicked "A".toText ∨ compiled = clicked "B".toText := by
    intro compiled path hmem
    obtain ⟨found, hfound, hcompile, -⟩ := habout _ hmem
    rcases List.mem_pair.mp hfound with rfl | rfl
    · exact .inl (Except.ok.inj (hcompile.symm.trans (compile_clicking _)))
    · exact .inr (Except.ok.inj (hcompile.symm.trans (compile_clicking _)))
  intro first path second other hfirst hsecond hslug
  rcases hpassed first path hfirst with rfl | rfl <;>
    rcases hpassed second other hsecond with rfl | rfl
  · rfl
  · exact absurd hslug (by decide +kernel)
  · exact absurd hslug (by decide +kernel)
  · rfl

/-- Two scenarios that are reported at one path. -/
def collision : List Notice :=
  [.passed (clicked "A".toText) "a.spec.ts".toText, .passed (clicked "a".toText) "a.spec.ts".toText]

/-- The case of one slug: both scripts are reported, and the first is lost. -/
theorem script_lost_of_one_slug :
    readInput (pairWorld "A" "a") "s.json".toText
        = .ok ([clicking "A".toText, clicking "a".toText], {})
      ∧ (clicking "A".toText).compile {} = .ok (clicked "A".toText)
      ∧ (clicking "a".toText).compile {} = .ok (clicked "a".toText)
      ∧ ∃ outcome, run (pairWorld "A" "a") compiling = .ok outcome
        ∧ outcome.exitCode = 0
        ∧ outcome.output = (collision.flatMap (Notice.lines false)).flatten
        ∧ ¬ AllKept outcome.tree collision := by
  have hoption : (run (pairWorld "A" "a") compiling).toOption.map (fun outcome =>
        (outcome.exitCode, outcome.output,
          (outcome.tree.read (Path.ofText "a.spec.ts".toText)).toOption))
      = some (0, (collision.flatMap (Notice.lines false)).flatten,
          (Encoding.utf8 (clicked "a".toText).script).toOption) := by
    decide +kernel
  have hencoded : (Encoding.utf8 (clicked "a".toText).script).toOption.isSome = true := by
    decide +kernel
  obtain ⟨content, hcontent⟩ := Option.isSome_iff_exists.mp hencoded
  obtain ⟨outcome, hrun, houtcome⟩ := Option.map_eq_some_iff.mp hoption
  obtain ⟨hexit, hrest⟩ := Prod.mk.inj houtcome
  obtain ⟨houtput, hread⟩ := Prod.mk.inj hrest
  refine ⟨eq_ok_of_toOption (by decide +kernel), compile_clicking _, compile_clicking _, outcome,
    eq_ok_of_toOption hrun, hexit, houtput, ?_⟩
  intro hkept
  have hfirst := hkept (clicked "A".toText) "a.spec.ts".toText (by simp [collision])
  have hsecond : outcome.tree.HoldsText (Path.ofText "a.spec.ts".toText)
      (clicked "a".toText).script :=
    ⟨content, eq_ok_of_toOption hcontent, eq_ok_of_toOption (hread.trans hcontent)⟩
  exact absurd (hfirst.unique hsecond) (by decide +kernel)

end CommandLine

end ScenarioScript
