import Mathlib.Data.List.TakeWhile
import ScenarioScript.Output.FileTree
import ScenarioScript.Proofs.Output.Sight

/-!
# What writing changes

Making directories only adds to a tree: whatever could be seen before can be seen afterwards.
Writing a file makes directories and then changes one sight, that of the place which the path leads
to.  So a file that has been written is read back, and a file beside it keeps its content.

* `FileTree.Extends` — everything that could be seen can still be seen.
* `FileTree.extends_makeDirectories` — **making directories destroys nothing.**
* `FileTree.Stores`, `FileTree.writeBytes_cases` — **what writing does.**
* `FileTree.Stores.read`, `FileTree.Stores.read_beside` — the file that has been written, and the
  files beside it.
* `Encoding.utf8_eq_ok_iff` — which texts can be encoded.
* `Writer.write_file_cases` — **what writing a script does**, whatever the encoding.
-/

namespace ScenarioScript

namespace FileTree

variable {tree before middle after : FileTree} {path : Path} {place : Place}

/-- **Everything that could be seen can still be seen.** -/
def Extends (before after : FileTree) : Prop :=
  ∀ place, before.sight place ≠ .nothing → after.sight place = before.sight place

lemma Extends.refl (tree : FileTree) : Extends tree tree :=
  fun _ _ => rfl

lemma Extends.trans (hfirst : Extends before middle) (hsecond : Extends middle after) :
    Extends before after := by
  intro place hplace
  have hmiddle := hfirst place hplace
  rw [hsecond place (by rwa [hmiddle]), hmiddle]

/-- A path leads to the same place as long as directories stay directories. -/
lemma Leads.of_keeps
    (hkeeps : ∀ place, tree.sight place = .directory → after.sight place = .directory)
    (h : tree.Leads path place) : after.Leads path place :=
  ⟨h.1, walk_of_keeps hkeeps h.2⟩

lemma Leads.of_extends (hextends : Extends tree after) (h : tree.Leads path place) :
    after.Leads path place := by
  refine h.of_keeps fun other hother => ?_
  rw [hextends other (by simp [hother]), hother]

/-- **Setting what a path leads to changes one sight.** -/
lemma sight_set_of_leads (entry : FileEntry) (hbottom : entry.IsBottom)
    (hleads : tree.Leads path place) (hplace : tree.sight place ≠ .directory) (other : Place) :
    (tree.set place entry).sight other = if other = place then entry.sight else tree.sight other := by
  obtain ⟨base, names⟩ := place
  cases names with
  | nil => exact absurd (sight_base tree base) hplace
  | cons name names =>
      have hstart : (Place.ofAnchor path.anchor).names ≠ [] →
          tree.sight (Place.ofAnchor path.anchor).up = .directory := by
        cases path.anchor <;> exact fun hnames => absurd rfl hnames
      exact sight_set hbottom (sight_up_of_walk hstart hleads.2 (by simp)) hplace other

/-! ## Making directories -/

lemma extends_of_makeDirectory (h : tree.makeDirectory path = .ok after) : Extends tree after := by
  rw [makeDirectory] at h
  split at h
  · exact absurd h (by simp)
  · exact absurd h (by simp)
  · rename_i place hlocate
    obtain rfl := Except.ok.inj h
    obtain ⟨hleads, hnone⟩ := locate_eq_ok_iff.mp hlocate
    have hnothing : tree.sight place = .nothing := Sight.of_eq_nothing_iff.mpr hnone.symm
    have hbottom : (FileEntry.directory []).IsBottom := fun _ hentries =>
      (FileEntry.directory.inj hentries).symm
    intro other hother
    rw [sight_set_of_leads (.directory []) hbottom hleads (by simp [hnothing]), if_neg]
    rintro rfl
    exact hother hnothing

lemma extends_of_ensureDirectory (h : tree.ensureDirectory path = .ok after) : Extends tree after := by
  rw [ensureDirectory] at h
  split at h
  · rename_i hmake
    obtain rfl := Except.ok.inj h
    exact extends_of_makeDirectory hmake
  · exact absurd h (by simp)
  · exact absurd h (by simp)
  · split at h
    · exact absurd h (by simp)
    · obtain rfl := Except.ok.inj h
      exact Extends.refl tree
    · exact absurd h (by simp)

lemma extends_attempt_ensureDirectory (tree : FileTree) (path : Path) :
    Extends tree (tree.attempt (tree.ensureDirectory path)).1 := by
  cases h : tree.ensureDirectory path with
  | error trouble => exact Extends.refl tree
  | ok after => exact extends_of_ensureDirectory h

lemma extends_makeDirectoriesFrom (tree : FileTree) (anchor : Anchor) (names : List Text) :
    Extends tree (tree.makeDirectoriesFrom anchor names).1 := by
  induction names with
  | nil =>
      rw [makeDirectoriesFrom]
      exact extends_attempt_ensureDirectory tree _
  | cons name names ih =>
      rw [makeDirectoriesFrom]
      split
      · cases habove : tree.makeDirectoriesFrom anchor names with
        | mk changed trouble =>
            rw [habove] at ih
            cases trouble with
            | some trouble => exact ih
            | none => exact ih.trans (extends_attempt_ensureDirectory changed _)
      · exact extends_attempt_ensureDirectory tree _

/-- **Making directories destroys nothing**, whether it succeeds or not. -/
lemma extends_makeDirectories (tree : FileTree) (path : Path) :
    Extends tree (tree.makeDirectories path).1 :=
  extends_makeDirectoriesFrom tree path.anchor path.names.reverse

/-! ## Writing -/

/-- **A file has been stored**: its path leads to a place that holds the content, where no directory
    was, and everything that could be seen elsewhere can still be seen. -/
structure Stores (before : FileTree) (path : Path) (content : Bytes) (after : FileTree)
    (place : Place) : Prop where
  leads : after.Leads path place
  file : after.sight place = .file content
  free : before.sight place ≠ .directory
  keeps : ∀ other, other ≠ place → before.sight other ≠ .nothing →
    after.sight other = before.sight other

/-- **A path can be opened** for writing. -/
def Opens (tree : FileTree) (path : Path) : Prop :=
  (tree.writeBytes path []).2 = none

instance (tree : FileTree) (path : Path) : Decidable (tree.Opens path) :=
  inferInstanceAs (Decidable ((tree.writeBytes path []).2 = none))

/-- Whether a path can be opened does not depend on what is to be written. -/
lemma opens_iff (content : Bytes) : tree.Opens path ↔ (tree.writeBytes path content).2 = none := by
  rw [Opens, writeBytes, writeBytes]
  split
  · rfl
  · split <;> rfl

/-- **What writing does**: it fails and destroys nothing, or it stores the file. -/
lemma writeBytes_cases {content : Bytes} {trouble : Option Trouble}
    (h : tree.writeBytes path content = (after, trouble)) :
    (trouble ≠ none ∧ Extends tree after)
      ∨ (trouble = none ∧ ∃ place, Stores tree path content after place) := by
  have hmade := extends_makeDirectories tree path.parent
  rw [writeBytes] at h
  split at h
  · rename_i made trouble hmake
    obtain ⟨rfl, rfl⟩ := Prod.mk.inj h
    rw [hmake] at hmade
    exact .inl ⟨by simp, hmade⟩
  · rename_i made hmake
    rw [hmake] at hmade
    split at h
    · obtain ⟨rfl, rfl⟩ := Prod.mk.inj h
      exact .inl ⟨by simp, hmade⟩
    · obtain ⟨rfl, rfl⟩ := Prod.mk.inj h
      exact .inl ⟨by simp, hmade⟩
    · rename_i place entry hfile hlocate
      obtain ⟨rfl, rfl⟩ := Prod.mk.inj h
      obtain ⟨hleads, rfl⟩ := locate_eq_ok_iff.mp hlocate
      have hplace : made.sight place ≠ .directory := by
        intro hdirectory
        obtain ⟨entries, hentries⟩ := Sight.of_eq_directory_iff.mp hdirectory
        exact hfile entries hentries
      have hsight := sight_set_of_leads (.file content) (by simp [FileEntry.IsBottom]) hleads hplace
      refine .inr ⟨rfl, place, ?_, ?_, ?_, ?_⟩
      · refine hleads.of_keeps fun other hother => ?_
        rw [hsight, if_neg, hother]
        rintro rfl
        exact hplace hother
      · rw [hsight, if_pos rfl]
        rfl
      · intro hdirectory
        refine hplace ?_
        rw [hmade place (by simp [hdirectory]), hdirectory]
      · intro other hother hsome
        rw [hsight, if_neg hother, hmade other hsome]

/-! ## Reading afterwards -/

/-- **Whatever was read before is read again** if nothing has been destroyed. -/
lemma Extends.read {content : Bytes} (hextends : Extends before after)
    (h : before.read path = .ok content) : after.read path = .ok content := by
  obtain ⟨place, hleads, hfile⟩ := read_eq_ok_iff.mp h
  refine read_eq_ok_iff.mpr ⟨place, hleads.of_extends hextends, ?_⟩
  rw [hextends place (by simp [hfile]), hfile]

/-- **A file that has been stored is read back.** -/
lemma Stores.read {content : Bytes} (h : Stores before path content after place) :
    after.read path = .ok content :=
  read_eq_ok_iff.mpr ⟨place, h.leads, h.file⟩

/-- Storing a file leaves directories directories. -/
lemma Stores.keeps_directory {content : Bytes} (h : Stores before path content after place)
    {other : Place} (hother : before.sight other = .directory) : after.sight other = .directory := by
  rw [h.keeps other ?_ (by simp [hother]), hother]
  rintro rfl
  exact h.free hother

/-- **A file beside the one that has been stored keeps its content.** -/
lemma Stores.read_beside {content other : Bytes} {anchor : Anchor} {names : List Text}
    {name beside : Text} (h : Stores before ⟨anchor, names ++ [name]⟩ content after place)
    (hname : name ≠ [char '.', char '.']) (hbeside : beside ≠ [char '.', char '.'])
    (hne : beside ≠ name)
    (hread : before.read ⟨anchor, names ++ [beside]⟩ = .ok other) :
    after.read ⟨anchor, names ++ [beside]⟩ = .ok other := by
  obtain ⟨found, hfound, hfile⟩ := read_eq_ok_iff.mp hread
  have hfound' : after.Leads ⟨anchor, names ++ [beside]⟩ found :=
    hfound.of_keeps fun _ => h.keeps_directory
  -- both paths pass through one folder
  obtain ⟨folder, hfolder, rfl⟩ := walk_append_eq_ok hfound'.2
  obtain ⟨same, hsame, hplace⟩ := walk_append_eq_ok h.leads.2
  obtain rfl := Except.ok.inj (hfolder.symm.trans hsame)
  refine read_eq_ok_iff.mpr ⟨_, hfound', ?_⟩
  rw [h.keeps _ ?_ (by simp [hfile]), hfile]
  rw [hplace, step, step, if_neg hname, if_neg hbeside]
  simp [Place.down, hne]

end FileTree

/-! ## Encodings -/

namespace Encoding

/-- Letter by letter, a text is encoded exactly if the encoding has all its letters. -/
lemma letterwise_eq_ok_iff {name reason text : Text} {bytes : Letter → Option Bytes}
    {isFaulty : Letter → Bool} {content : Bytes} :
    letterwise name reason bytes isFaulty text = .ok content
      ↔ (∀ c ∈ text, (bytes c).isSome = true)
        ∧ content = text.flatMap fun c => (bytes c).getD [] := by
  rw [letterwise]
  cases hrest : text.dropWhile fun c => (bytes c).isSome with
  | nil =>
      have hall : ∀ c ∈ text, (bytes c).isSome = true := List.dropWhile_eq_nil_iff.mp hrest
      have htake : text.takeWhile (fun c => (bytes c).isSome) = text :=
        List.takeWhile_eq_self_iff.mpr hall
      simp only [htake, Except.ok.injEq]
      exact ⟨fun h => ⟨hall, h.symm⟩, fun h => h.2.symm⟩
  | cons first rest =>
      have hfirst : ¬ (bytes first).isSome = true := by
        have := List.head_dropWhile_not (fun c => (bytes c).isSome) (l := text) (by simp [hrest])
        simpa [hrest] using this
      have hmem : first ∈ text := by
        refine (List.dropWhile_sublist fun c => (bytes c).isSome).subset ?_
        rw [hrest]
        exact List.mem_cons_self
      simp only [reduceCtorEq, false_iff, not_and]
      intro hall
      exact absurd (hall first hmem) hfirst

/-- UTF-8 encodes texts of characters as such, and no other texts. -/
lemma utf8_eq_ok_iff {text : Text} {content : Bytes} :
    utf8 text = .ok content ↔ ∃ chars, text = Text.ofChars chars ∧ content = Utf8.encode chars := by
  rw [utf8, letterwise_eq_ok_iff]
  constructor
  · rintro ⟨hall, rfl⟩
    induction text with
    | nil => exact ⟨[], rfl, rfl⟩
    | cons c rest ih =>
        obtain ⟨chars, rfl, hcontent⟩ := ih fun d hd => hall d (List.mem_cons_of_mem c hd)
        cases c with
        | half index => simpa using hall (.half index) List.mem_cons_self
        | char c => exact ⟨c :: chars, rfl, by rw [List.flatMap_cons, hcontent]; rfl⟩
  · rintro ⟨chars, rfl, rfl⟩
    refine ⟨by simp [Text.ofChars], ?_⟩
    simp [Text.ofChars, Utf8.encode, List.flatMap_map]

end Encoding

/-! ## Writing scripts -/

/-- **What writing a script to a file does.**  Nothing is reported, and the script is stored; or
    the path cannot be used, and nothing is destroyed; or the script cannot be encoded, and an empty
    file is stored. -/
lemma Writer.write_file_cases {encoding : Encoding} {path script : Text} {before after : Store}
    {failure : Option Text}
    (h : Writer.write (.file encoding) path script before = (after, failure)) :
    (failure = none ∧ ∃ content, encoding script = .ok content
        ∧ ∃ place, before.disk.Stores (Path.ofText path) content after.disk place)
      ∨ (∃ trouble : FileTree.Trouble, failure = some trouble.message
        ∧ ¬ before.disk.Opens (Path.ofText path) ∧ before.disk.Extends after.disk)
      ∨ ∃ fault, encoding script = .error fault ∧ failure = some fault.message
        ∧ before.disk.Opens (Path.ofText path)
        ∧ ∃ place, before.disk.Stores (Path.ofText path) [] after.disk place := by
  cases hencode : encoding script with
  | ok content =>
      rcases hwrite : before.disk.writeBytes (Path.ofText path) content with ⟨disk, trouble⟩
      simp only [write, FileTree.writeText, hencode, hwrite] at h
      obtain ⟨rfl, rfl⟩ := Prod.mk.inj h
      rcases FileTree.writeBytes_cases hwrite with ⟨htrouble, hextends⟩ | ⟨rfl, hstores⟩
      · obtain ⟨found, rfl⟩ := Option.ne_none_iff_exists'.mp htrouble
        refine .inr (.inl ⟨found, rfl, ?_, hextends⟩)
        rwa [FileTree.opens_iff content, hwrite]
      · exact .inl ⟨rfl, content, rfl, hstores⟩
  | error fault =>
      rcases hwrite : before.disk.writeBytes (Path.ofText path) [] with ⟨disk, trouble⟩
      simp only [write, FileTree.writeText, hencode, hwrite] at h
      obtain ⟨rfl, rfl⟩ := Prod.mk.inj h
      rcases FileTree.writeBytes_cases hwrite with ⟨htrouble, hextends⟩ | ⟨rfl, hstores⟩
      · obtain ⟨found, rfl⟩ := Option.ne_none_iff_exists'.mp htrouble
        refine .inr (.inl ⟨found, rfl, ?_, hextends⟩)
        rwa [FileTree.opens_iff [], hwrite]
      · refine .inr (.inr ⟨fault, rfl, rfl, ?_, hstores⟩)
        rw [FileTree.opens_iff [], hwrite]

end ScenarioScript
