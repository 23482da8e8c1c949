import ScenarioScript.Proofs.CommandLine.Delivery
import ScenarioScript.Proofs.Session.Persistence

/-!
# What a failed write destroys

A file is emptied before its new text is encoded.  So a script that cannot be encoded leaves the
file at its path empty, whatever stood there, while a path that cannot be used is noticed before
anything is touched.

* `FileTree.KeepsFiles` — every file keeps its content.
* `Session.FailsToEncode` — a call fails because the script cannot be encoded, and for no reason
  that has to do with its path.
* `Session.cases_of_unwritten` — **what a failed call does**, in any encoding.
* `Session.failed_write_keeps_files_iff` — **when a failed write destroys nothing.**
* `Session.not_keepsFiles_of_overwritten` — a script that is lost.
-/

namespace ScenarioScript

/-! ## Files -/

namespace FileTree

variable {before after : FileTree} {path : Path} {place : Place}

/-- **Every file keeps its content.** -/
def KeepsFiles (before after : FileTree) : Prop :=
  ∀ place content, before.lookup? place = some (.file content) →
    after.lookup? place = some (.file content)

lemma lookup?_eq_file_iff {tree : FileTree} {content : Bytes} :
    tree.lookup? place = some (.file content) ↔ tree.sight place = .file content :=
  Sight.of_eq_file_iff.symm

/-- If nothing is destroyed, no file is. -/
lemma Extends.keepsFiles (h : Extends before after) : KeepsFiles before after := by
  intro place content hfile
  rw [lookup?_eq_file_iff] at hfile ⊢
  rw [h place (by simp [hfile]), hfile]

/-- Storing a file leaves all files elsewhere alone. -/
lemma Stores.lookup?_of_ne {content kept : Bytes} {other : Place}
    (h : Stores before path content after place) (hother : other ≠ place)
    (hfile : before.lookup? other = some (.file kept)) :
    after.lookup? other = some (.file kept) := by
  rw [lookup?_eq_file_iff] at hfile ⊢
  rw [h.keeps other hother (by simp [hfile]), hfile]

lemma Stores.locate {content : Bytes} (h : Stores before path content after place) :
    after.locate path = .ok (place, some (.file content)) :=
  locate_eq_ok_iff.mpr ⟨h.leads, (lookup?_eq_file_iff.mpr h.file).symm⟩

/-- **Storing a file destroys nothing exactly if a file in its place had the same content.** -/
lemma Stores.keepsFiles_iff {content : Bytes} (h : Stores before path content after place) :
    KeepsFiles before after
      ↔ ∀ kept, before.lookup? place = some (.file kept) → kept = content := by
  have hstored := lookup?_eq_file_iff.mpr h.file
  constructor
  · intro hkeeps kept hkept
    have hafter := hkeeps place kept hkept
    rw [hstored] at hafter
    exact (FileEntry.file.inj (Option.some.inj hafter)).symm
  · intro hsame other kept hkept
    by_cases hother : other = place
    · subst hother
      rw [hstored, hsame kept hkept]
    · exact h.lookup?_of_ne hother hkept

end FileTree

namespace Session

/-! ## Calls -/

section Call

variable {session : Session} {value : Json} {path : Text} {encoding : Encoding}

/-- **The call fails because the script cannot be encoded**, while its path can be opened. -/
def FailsToEncode (session : Session) (value : Json) (path : Text) (encoding : Encoding) : Prop :=
  ∃ compiled fault, compile session.settings value = .ok compiled
    ∧ encoding compiled.script = .error fault ∧ session.store.disk.Opens (Path.ofText path)
    ∧ (session.call (.write value path (Writer.write (.file encoding)))).2.1
      = .written (.ok ⟨path, .error fault.message⟩)

/-- The files after a call to write into a file. -/
def diskAfter (session : Session) (value : Json) (path : Text) (encoding : Encoding) : FileTree :=
  (session.call (.write value path (Writer.write (.file encoding)))).1.store.disk

/-- **A call that says that the script could not be written** has destroyed nothing, or it has left
    an empty file because the script cannot be encoded. -/
lemma cases_of_unwritten {message : Text}
    (h : (session.call (.write value path (Writer.write (.file encoding)))).2.1
      = .written (.ok ⟨path, .error message⟩)) :
    (session.store.disk.Extends (session.diskAfter value path encoding)
        ∧ ¬ session.FailsToEncode value path encoding)
      ∨ (session.FailsToEncode value path encoding
        ∧ ∃ place, session.store.disk.Stores (Path.ofText path) []
          (session.diskAfter value path encoding) place) := by
  cases hcompile : compile session.settings value with
  | error fault =>
      rw [(call_write_of_compile_eq_error hcompile path _).2] at h
      exact absurd (Answer.written.inj h) (by simp)
  | ok compiled =>
      obtain ⟨hstore, hanswer⟩ :=
        call_write_of_compile_eq_ok hcompile path (Writer.write (.file encoding))
      rcases hwrite : Writer.write (.file encoding) path compiled.script session.store with
        ⟨store, failure⟩
      rw [hwrite] at hstore hanswer
      have hdisk : session.diskAfter value path encoding = store.disk := congrArg Store.disk hstore
      rw [hdisk]
      rcases Writer.write_file_cases hwrite with
        ⟨rfl, -⟩ | ⟨trouble, rfl, hclosed, hextends⟩ | ⟨fault, hencode, rfl, hopens, hstores⟩
      · rw [hanswer] at h
        simp at h
      · refine .inl ⟨hextends, ?_⟩
        rintro ⟨other, fault, -, -, hopens, -⟩
        exact hclosed hopens
      · exact .inr ⟨⟨compiled, fault, hcompile, hencode, hopens, hanswer⟩, hstores⟩

end Call

/-- **When a failed write destroys nothing.**  If a call says that the script could not be written,
    and not because the script cannot be encoded, every file keeps its content.  If the script
    cannot be encoded, the file that the path leads to is empty afterwards, every other file keeps
    its content, and so all files do exactly if no file stood at that place, or one without
    content. -/
theorem failed_write_keeps_files_iff (session : Session) (value : Json) (path : Text)
    (encoding : Encoding) :
    (∀ message, (session.call (.write value path (Writer.write (.file encoding)))).2.1
          = .written (.ok ⟨path, .error message⟩) →
        ¬ session.FailsToEncode value path encoding →
        session.store.disk.KeepsFiles (session.diskAfter value path encoding))
      ∧ (session.FailsToEncode value path encoding →
        ∃ place, (session.diskAfter value path encoding).locate (Path.ofText path)
            = .ok (place, some (.file []))
          ∧ (∀ other content, other ≠ place →
              session.store.disk.lookup? other = some (.file content) →
              (session.diskAfter value path encoding).lookup? other = some (.file content))
          ∧ (session.store.disk.KeepsFiles (session.diskAfter value path encoding)
            ↔ ∀ content, session.store.disk.lookup? place = some (.file content) →
                content = [])) := by
  constructor
  · intro message hmessage hencodes
    rcases cases_of_unwritten hmessage with ⟨hextends, -⟩ | ⟨hfails, -⟩
    · exact hextends.keepsFiles
    · exact absurd hfails hencodes
  · intro hfails
    obtain ⟨compiled, fault, -, -, -, hmessage⟩ := id hfails
    rcases cases_of_unwritten hmessage with ⟨-, hencodes⟩ | ⟨-, place, hstores⟩
    · exact absurd hfails hencodes
    · exact ⟨place, hstores.locate, fun other content => hstores.lookup?_of_ne,
        hstores.keepsFiles_iff⟩

/-! ## One path for two scripts -/

/-- A script that cannot be encoded fails for this reason if its path can be used. -/
lemma failsToEncode_of_opens {session : Session} {value : Json} {path : Text}
    {encoding : Encoding} {compiled : Compiled} {fault : Encoding.Fault}
    (hcompile : compile session.settings value = .ok compiled)
    (hencode : encoding compiled.script = .error fault)
    (hopens : session.store.disk.Opens (Path.ofText path)) :
    session.FailsToEncode value path encoding := by
  refine ⟨compiled, fault, hcompile, hencode, hopens, ?_⟩
  rw [(call_write_of_compile_eq_ok hcompile path _).2]
  simp only [Writer.write, FileTree.writeText, hencode, show _ = none from hopens]
  rfl

/-- A scenario that clicks once, as a value. -/
def clickingAs (name : Text) : Json :=
  .object [("name".toText, .string name), ("given".toText, .string "<end>".toText),
    ("when".toText, .string "<click_a>".toText), ("then".toText, .string "<end>".toText)]

/-- The session after the scenario of a name has been written to `a.spec.ts`. -/
def writtenAs (name : Text) : Session :=
  (({} : Session).call (.write (clickingAs name) "a.spec.ts".toText (Writer.write (.file .utf8)))).1

lemma compile_clickingAs_accented :
    compile {} (clickingAs "é".toText) = .ok (CommandLine.clicked "é".toText) := by
  have hload : Scenario.load (clickingAs "é".toText) = .ok (CommandLine.clicking "é".toText) :=
    eq_ok_of_toOption (by decide +kernel)
  rw [compile_of_load hload, CommandLine.compile_clicking]
  rfl

lemma exists_encode_accented :
    ∃ fault, Encoding.ascii (CommandLine.clicked "é".toText).script = .error fault := by
  have hfails :
      (Encoding.ascii (CommandLine.clicked "é".toText).script).toOption = none := by
    decide +kernel
  cases hencode : Encoding.ascii (CommandLine.clicked "é".toText).script with
  | ok content =>
      rw [hencode] at hfails
      exact absurd hfails (by simp [Except.toOption])
  | error fault => exact ⟨fault, rfl⟩

/-- The case of a new path: an empty file is added, and nothing is lost. -/
theorem failed_write_keeps_files_at_new_path :
    ({} : Session).FailsToEncode (clickingAs "é".toText) "a.spec.ts".toText .ascii
      ∧ ({} : Session).store.disk.KeepsFiles
        (({} : Session).diskAfter (clickingAs "é".toText) "a.spec.ts".toText .ascii) := by
  obtain ⟨fault, hencode⟩ := exists_encode_accented
  have hfails : ({} : Session).FailsToEncode (clickingAs "é".toText) "a.spec.ts".toText .ascii :=
    failsToEncode_of_opens compile_clickingAs_accented hencode (by decide +kernel)
  obtain ⟨place, hlocate, -, hkeeps⟩ :=
    (failed_write_keeps_files_iff {} (clickingAs "é".toText) "a.spec.ts".toText .ascii).2 hfails
  have hplace : ((({} : Session).diskAfter (clickingAs "é".toText) "a.spec.ts".toText .ascii).locate
      (Path.ofText "a.spec.ts".toText)).toOption.map (·.1)
        = some ⟨.above 0, ["a.spec.ts".toText]⟩ := by
    decide +kernel
  rw [hlocate] at hplace
  obtain rfl : place = ⟨.above 0, ["a.spec.ts".toText]⟩ := Option.some.inj hplace
  refine ⟨hfails, hkeeps.mpr fun content hcontent => ?_⟩
  have hnothing : ({} : Session).store.disk.sight ⟨.above 0, ["a.spec.ts".toText]⟩ = .nothing := by
    decide +kernel
  rw [FileTree.lookup?_eq_file_iff, hnothing] at hcontent
  exact absurd hcontent (by simp)

/-- The case of a path that has a script: the script that was written before is gone. -/
theorem not_keepsFiles_of_overwritten :
    (writtenAs "A".toText).store.disk.HoldsText (Path.ofText "a.spec.ts".toText)
        (CommandLine.clicked "A".toText).script
      ∧ (writtenAs "A".toText).FailsToEncode (clickingAs "é".toText) "a.spec.ts".toText .ascii
      ∧ ((writtenAs "A".toText).diskAfter (clickingAs "é".toText) "a.spec.ts".toText .ascii).read
          (Path.ofText "a.spec.ts".toText) = .ok []
      ∧ ¬ (writtenAs "A".toText).store.disk.KeepsFiles
        ((writtenAs "A".toText).diskAfter (clickingAs "é".toText) "a.spec.ts".toText .ascii) := by
  obtain ⟨fault, hencode⟩ := exists_encode_accented
  have hscript :
      (Encoding.utf8 (CommandLine.clicked "A".toText).script).toOption.isSome = true := by
    decide +kernel
  obtain ⟨content, hcontent⟩ := Option.isSome_iff_exists.mp hscript
  have hread : ((writtenAs "A".toText).store.disk.read (Path.ofText "a.spec.ts".toText)).toOption
      = (Encoding.utf8 (CommandLine.clicked "A".toText).script).toOption := by
    decide +kernel
  refine ⟨⟨content, eq_ok_of_toOption hcontent, eq_ok_of_toOption (hread.trans hcontent)⟩,
    failsToEncode_of_opens compile_clickingAs_accented hencode (by decide +kernel),
    eq_ok_of_toOption (by decide +kernel), ?_⟩
  intro hkeeps
  have hbefore : (writtenAs "A".toText).store.disk.sight ⟨.above 0, ["a.spec.ts".toText]⟩
      = .file ((Encoding.utf8 (CommandLine.clicked "A".toText).script).toOption.getD []) := by
    decide +kernel
  have hafter : ((writtenAs "A".toText).diskAfter (clickingAs "é".toText) "a.spec.ts".toText
      .ascii).sight ⟨.above 0, ["a.spec.ts".toText]⟩ = .file [] := by
    decide +kernel
  have hkept := hkeeps _ _ (FileTree.lookup?_eq_file_iff.mpr hbefore)
  rw [FileTree.lookup?_eq_file_iff, hafter] at hkept
  exact absurd hkept (by decide +kernel)

end Session

end ScenarioScript
