import Mathlib.Tactic.Lemma
import ScenarioScript.Output.FileTree

/-!
# What can be seen in a tree of files

Directories hold directories, so that setting one entry changes what `FileTree.lookup?` gives at
every place above it.  What can be **seen** at a place is less: nothing, a directory whatever it
holds, or a file with its content.  Seen this way, a tree is a function on places, and setting an
entry changes this function at one place only.

* `FileTree.sight` — what can be seen at a place.
* `FileTree.sight_set` — **setting an entry changes one sight.**
* `FileTree.walk` — the place that names lead to, found by looking at sights only.
* `FileTree.locate_eq_ok_iff`, `FileTree.read_eq_ok_iff` — following and reading a path, in these
  terms.
-/

namespace ScenarioScript

/-- **What can be seen at a place.** -/
inductive Sight where
  | nothing
  | directory
  | file (content : Bytes)
deriving Repr, DecidableEq

def FileEntry.sight : FileEntry → Sight
  | .file content => .file content
  | .directory _ => .directory

/-- The sight of what may not be there. -/
def Sight.of : Option FileEntry → Sight
  | none => .nothing
  | some entry => entry.sight

lemma Sight.of_eq_nothing_iff {entry : Option FileEntry} : Sight.of entry = .nothing ↔ entry = none := by
  cases entry with
  | none => simp [Sight.of]
  | some entry => cases entry <;> simp [Sight.of, FileEntry.sight]

lemma Sight.of_eq_directory_iff {entry : Option FileEntry} :
    Sight.of entry = .directory ↔ ∃ entries, entry = some (.directory entries) := by
  cases entry with
  | none => simp [Sight.of]
  | some entry => cases entry <;> simp [Sight.of, FileEntry.sight]

lemma Sight.of_eq_file_iff {entry : Option FileEntry} {content : Bytes} :
    Sight.of entry = .file content ↔ entry = some (.file content) := by
  cases entry with
  | none => simp [Sight.of]
  | some entry => cases entry <;> simp [Sight.of, FileEntry.sight]

/-- An entry that has nothing below it. -/
def FileEntry.IsBottom (entry : FileEntry) : Prop :=
  ∀ entries, entry = .directory entries → entries = []

/-! ## Directories -/

namespace Directory

def sight (directory : Directory) (names : List Text) : Sight :=
  Sight.of (directory.lookup? names)

variable {directory inner : Directory} {name : Text} {names : List Text}

lemma sight_nil (directory : Directory) : directory.sight [] = .directory := by
  rw [sight, lookup?]
  rfl

lemma sight_cons_of_directory (h : Association.get? name directory = some (.directory inner))
    (names : List Text) : directory.sight (name :: names) = Directory.sight inner names := by
  cases names with
  | nil =>
      rw [sight_nil, sight, lookup?, h]
      rfl
  | cons next rest => simp only [sight, lookup?, h]

lemma sight_cons_of_ne
    (h : ∀ inner, Association.get? name directory ≠ some (.directory inner)) (hnames : names ≠ []) :
    directory.sight (name :: names) = .nothing := by
  cases names with
  | nil => exact absurd rfl hnames
  | cons next rest =>
      rw [sight, lookup?]
      · split
        · rename_i inner hinner
          exact absurd hinner (h inner)
        · rfl
      · simp

lemma sight_cons_congr {other : Directory}
    (h : Association.get? name directory = Association.get? name other) (names : List Text) :
    directory.sight (name :: names) = other.sight (name :: names) := by
  cases names with
  | nil => rw [sight, sight, lookup?, lookup?, h]
  | cons next rest => simp only [sight, lookup?, h]

/-- On the way to something there is a directory. -/
lemma exists_directory_of_sight_cons (hnames : names ≠ [])
    (h : directory.sight (name :: names) ≠ .nothing) :
    ∃ inner, Association.get? name directory = some (.directory inner) := by
  cases hget : Association.get? name directory with
  | none => exact absurd (sight_cons_of_ne (by simp [hget]) hnames) h
  | some entry =>
      cases entry with
      | file content => exact absurd (sight_cons_of_ne (by simp [hget]) hnames) h
      | directory inner => exact ⟨inner, rfl⟩

/-- What is above something is a directory. -/
lemma sight_of_sight_append (h : directory.sight (names ++ [name]) ≠ .nothing) :
    directory.sight names = .directory := by
  induction names generalizing directory with
  | nil => exact sight_nil directory
  | cons first rest ih =>
      obtain ⟨inner, hinner⟩ := exists_directory_of_sight_cons (by simp) h
      rw [sight_cons_of_directory hinner]
      rw [List.cons_append, sight_cons_of_directory hinner] at h
      exact ih h

lemma exists_directory_of_sight_eq (h : directory.sight (name :: names) = .directory) :
    ∃ inner, Association.get? name directory = some (.directory inner) := by
  cases names with
  | nil =>
      rw [sight, lookup?, Sight.of_eq_directory_iff] at h
      exact h
  | cons next rest => exact exists_directory_of_sight_cons (List.cons_ne_nil next rest) (by simp [h])

/-- One name further down. -/
lemma lookup?_append {entries : Directory} (h : directory.lookup? names = some (.directory entries)) :
    directory.lookup? (names ++ [name]) = Association.get? name entries := by
  induction names generalizing directory with
  | nil =>
      rw [lookup?] at h
      obtain rfl := FileEntry.directory.inj (Option.some.inj h)
      rw [List.nil_append, lookup?]
  | cons first rest ih =>
      have hsight : directory.sight (first :: rest) = .directory := by
        rw [sight, h]
        rfl
      obtain ⟨inner, hinner⟩ := exists_directory_of_sight_eq hsight
      have hdown : ∀ below, below ≠ [] →
          directory.lookup? (first :: below) = Directory.lookup? inner below := by
        intro below hbelow
        cases below with
        | nil => exact absurd rfl hbelow
        | cons next later => simp only [lookup?, hinner]
      rw [List.cons_append, hdown _ (by simp)]
      refine ih ?_
      cases rest with
      | nil =>
          rw [lookup?, hinner] at h
          rw [lookup?]
          exact h
      | cons next later =>
          rw [hdown _ (by simp)] at h
          exact h

/-- Below something that holds nothing there is nothing. -/
lemma sight_below {entry : FileEntry} (hbottom : entry.IsBottom)
    (h : Association.get? name directory = some entry) (hnames : names ≠ []) :
    directory.sight (name :: names) = .nothing := by
  cases entry with
  | file content => exact sight_cons_of_ne (by simp [h]) hnames
  | directory entries =>
      obtain rfl := hbottom entries rfl
      rw [sight_cons_of_directory h]
      cases names with
      | nil => exact absurd rfl hnames
      | cons next rest =>
          cases rest with
          | nil => rfl
          | cons _ _ => rfl

lemma set_cons_of_directory (h : Association.get? name directory = some (.directory inner))
    (hnames : names ≠ []) (entry : FileEntry) :
    directory.set entry (name :: names)
      = Association.put name (.directory (Directory.set entry inner names)) directory := by
  cases names with
  | nil => exact absurd rfl hnames
  | cons next rest => simp only [set, Directory.inner, h]

/-- **Setting an entry in a directory changes one sight**, if there is no directory in its place. -/
lemma sight_set {entry : FileEntry} (hbottom : entry.IsBottom)
    (habove : directory.sight names = .directory)
    (hplace : directory.sight (names ++ [name]) ≠ .directory) (others : List Text) :
    (directory.set entry (names ++ [name])).sight others
      = if others = names ++ [name] then entry.sight else directory.sight others := by
  induction names generalizing directory others with
  | nil =>
      rw [List.nil_append, set]
      cases others with
      | nil => rw [sight_nil, sight_nil, if_neg (by simp)]
      | cons other rest =>
          by_cases hother : other = name
          · subst hother
            have hself := Association.get?_put_self other entry directory
            cases rest with
            | nil => rw [if_pos rfl, sight, lookup?, hself, Sight.of]
            | cons next rest =>
                -- neither before nor after is there anything below
                have hnone : ∀ inner, Association.get? other directory ≠ some (.directory inner) := by
                  intro inner hinner
                  refine hplace ?_
                  rw [List.nil_append, sight_cons_of_directory hinner, sight_nil]
                rw [if_neg (by simp), sight_below hbottom hself (by simp),
                  sight_cons_of_ne hnone (by simp)]
          · rw [if_neg (by simp [hother])]
            exact sight_cons_congr (Association.get?_put_of_ne hother entry directory) rest
  | cons first between ih =>
      obtain ⟨inner, hinner⟩ := exists_directory_of_sight_eq habove
      rw [sight_cons_of_directory hinner] at habove
      rw [List.cons_append, sight_cons_of_directory hinner] at hplace
      rw [List.cons_append, set_cons_of_directory hinner (by simp)]
      cases others with
      | nil => rw [sight_nil, sight_nil, if_neg (by simp)]
      | cons other rest =>
          by_cases hother : other = first
          · subst hother
            rw [sight_cons_of_directory (Association.get?_put_self _ _ _),
              sight_cons_of_directory hinner, ih habove hplace]
            simp
          · rw [if_neg (by simp [hother])]
            exact sight_cons_congr (Association.get?_put_of_ne hother _ directory) rest

end Directory

/-! ## Trees -/

namespace FileTree

/-- **What can be seen at a place of a tree.** -/
def sight (tree : FileTree) (place : Place) : Sight :=
  Sight.of (tree.lookup? place)

variable {tree : FileTree} {place : Place} {base : Base} {name : Text} {names : List Text}

lemma sight_base (tree : FileTree) (base : Base) : tree.sight ⟨base, []⟩ = .directory :=
  Directory.sight_nil (tree.held base)

lemma sight_of_sight_cons (h : tree.sight ⟨base, name :: names⟩ ≠ .nothing) :
    tree.sight ⟨base, names⟩ = .directory := by
  have happend : (tree.held base).sight (names.reverse ++ [name]) ≠ .nothing := by
    rw [← List.reverse_cons]
    exact h
  exact Directory.sight_of_sight_append happend

lemma held_set_self (tree : FileTree) (place : Place) (entry : FileEntry) :
    (tree.set place entry).held place.base
      = (tree.held place.base).set entry place.names.reverse := by
  rw [set, held, List.find?_cons_of_pos (by simp)]
  rfl

lemma held_set_of_ne {other : Base} (h : other ≠ place.base) (entry : FileEntry) :
    (tree.set place entry).held other = tree.held other := by
  rw [set, held, List.find?_cons_of_neg (by simp [Ne.symm h]), List.find?_filter, held]
  congr 3
  funext holding
  by_cases hbase : holding.1 = other
  · simp [hbase, h]
  · simp [hbase]

/-- **Setting an entry changes one sight**, if it stands in a directory and not in the place of
    one. -/
lemma sight_set {entry : FileEntry} (hbottom : entry.IsBottom)
    (habove : tree.sight ⟨base, names⟩ = .directory)
    (hplace : tree.sight ⟨base, name :: names⟩ ≠ .directory) (other : Place) :
    (tree.set ⟨base, name :: names⟩ entry).sight other
      = if other = ⟨base, name :: names⟩ then entry.sight else tree.sight other := by
  obtain ⟨otherBase, otherNames⟩ := other
  by_cases hbase : otherBase = base
  · subst hbase
    have hplace' : (tree.held otherBase).sight (names.reverse ++ [name]) ≠ .directory := by
      rw [← List.reverse_cons]
      exact hplace
    have hset := Directory.sight_set hbottom habove hplace' otherNames.reverse
    have hheld := held_set_self tree ⟨otherBase, name :: names⟩ entry
    rw [List.reverse_cons] at hheld
    rw [sight, lookup?, hheld]
    refine hset.trans ?_
    by_cases hnames : otherNames = name :: names
    · rw [if_pos (by simp [hnames]), if_pos (by rw [hnames])]
    · rw [if_neg (by rwa [← List.reverse_cons, List.reverse_inj]), if_neg (by simp [hnames])]
      rfl
  · rw [if_neg (by simp [hbase]), sight, lookup?, held_set_of_ne hbase]
    rfl

/-! ## Walking -/

/-- The place that one name leads to. -/
def step (place : Place) (name : Text) : Place :=
  if name = [char '.', char '.'] then place.up else place.down name

/-- The name is not too long. -/
def Fits (name : Text) : Prop :=
  name = [char '.', char '.'] ∨ Utf8.size name ≤ maxName

instance (name : Text) : Decidable (Fits name) :=
  inferInstanceAs (Decidable (_ ∨ _))

/-- **The place that names lead to.** Everything on the way has to be a directory. -/
def walk (tree : FileTree) : Place → List Text → Except Reason Place
  | place, [] => .ok place
  | place, name :: names =>
    match tree.sight place with
    | .nothing => .error .notFound
    | .file _ => .error .notDirectory
    | .directory => if Fits name then tree.walk (step place name) names else .error .nameTooLong

lemma walk_cons_eq_ok_iff {reached : Place} :
    tree.walk place (name :: names) = .ok reached
      ↔ tree.sight place = .directory ∧ Fits name
        ∧ tree.walk (step place name) names = .ok reached := by
  rw [walk]
  cases tree.sight place with
  | nothing => simp
  | file content => simp
  | directory => by_cases h : Fits name <;> simp [h]

/-- **What can be reached stands in a directory**, unless it is a base. -/
lemma sight_up_of_walk {reached : Place}
    (habove : place.names ≠ [] → tree.sight place.up = .directory)
    (h : tree.walk place names = .ok reached) :
    reached.names ≠ [] → tree.sight reached.up = .directory := by
  induction names generalizing place with
  | nil =>
      obtain rfl := Except.ok.inj h
      exact habove
  | cons name names ih =>
      obtain ⟨hsight, -, hwalk⟩ := walk_cons_eq_ok_iff.mp h
      refine ih ?_ hwalk
      rw [step]
      split
      · obtain ⟨base, above⟩ := place
        rcases above with - | ⟨last, - | ⟨next, rest⟩⟩
        · cases base <;> exact fun hnames => absurd rfl hnames
        · exact fun hnames => absurd rfl hnames
        · intro _
          have hup : tree.sight ⟨base, next :: rest⟩ = .directory := habove (by simp)
          have hsome : tree.sight ⟨base, next :: rest⟩ ≠ .nothing := by simp [hup]
          exact sight_of_sight_cons hsome
      · exact fun _ => hsight

/-- One name more leads one step further. -/
lemma walk_append_eq_ok {last : Text} {reached : Place}
    (h : tree.walk place (names ++ [last]) = .ok reached) :
    ∃ folder, tree.walk place names = .ok folder ∧ reached = step folder last := by
  induction names generalizing place with
  | nil =>
      obtain ⟨-, -, hwalk⟩ := walk_cons_eq_ok_iff.mp h
      exact ⟨place, rfl, (Except.ok.inj hwalk).symm⟩
  | cons name names ih =>
      obtain ⟨hsight, hfits, hwalk⟩ := walk_cons_eq_ok_iff.mp h
      obtain ⟨folder, hfolder, hreached⟩ := ih hwalk
      exact ⟨folder, walk_cons_eq_ok_iff.mpr ⟨hsight, hfits, hfolder⟩, hreached⟩

/-- **Names lead to the same place** as long as directories stay directories. -/
lemma walk_of_keeps {after : FileTree} {reached : Place}
    (hkeeps : ∀ place, tree.sight place = .directory → after.sight place = .directory)
    (h : tree.walk place names = .ok reached) : after.walk place names = .ok reached := by
  induction names generalizing place with
  | nil => exact h
  | cons name names ih =>
      obtain ⟨hsight, hfits, hwalk⟩ := walk_cons_eq_ok_iff.mp h
      exact walk_cons_eq_ok_iff.mpr ⟨hkeeps place hsight, hfits, ih hwalk⟩

/-! ## Following -/

/-- **The directories above a place**, the nearest first. -/
inductive Trail (tree : FileTree) (base : Base) : List Text → List Directory → Prop
  | base : Trail tree base [] []
  | down {names : List Text} {directory : Directory} {trail : List Directory}
      (here : tree.lookup? ⟨base, names⟩ = some (.directory directory))
      (above : Trail tree base names trail) (name : Text) :
    Trail tree base (name :: names) (directory :: trail)

lemma lookup?_down {entries : Directory} (h : tree.lookup? place = some (.directory entries))
    (name : Text) : tree.lookup? (place.down name) = Association.get? name entries := by
  rw [lookup?, Place.down, List.reverse_cons]
  exact Directory.lookup?_append h

/-- **Following names is walking**, as long as the trail is that of the place. -/
lemma follow_eq_walk {trail : List Directory} (htrail : Trail tree place.base place.names trail)
    (names : List Text) :
    tree.follow place trail (tree.lookup? place) names
      = (tree.walk place names).map fun reached => (reached, tree.lookup? reached) := by
  induction names generalizing place trail with
  | nil =>
      rw [follow, walk]
      rfl
  | cons name names ih =>
      rw [walk, sight]
      cases hlookup : tree.lookup? place with
      | none => rfl
      | some entry =>
          cases entry with
          | file content => rfl
          | directory entries =>
              rw [follow.eq_def]
              simp only [Sight.of, FileEntry.sight]
              by_cases hup : name = [char '.', char '.']
              · have hfits : Fits name := Or.inl hup
                rw [if_pos hup, if_pos hfits, step, if_pos hup]
                obtain ⟨base, above⟩ := place
                cases htrail with
                | base =>
                    refine ih ?_
                    cases base <;> exact Trail.base
                | @down above directory trail here htrail last =>
                    have hfollow := @ih ⟨base, above⟩ _ htrail
                    rw [here] at hfollow
                    exact hfollow
              · rw [if_neg hup]
                by_cases hlong : maxName < Utf8.size name
                · have hfits : ¬ Fits name := by simp [Fits, hup, hlong]
                  rw [if_pos hlong, if_neg hfits]
                  rfl
                · have hfits : Fits name := Or.inr (Nat.not_lt.mp hlong)
                  rw [if_neg hlong, if_pos hfits, step, if_neg hup, ← lookup?_down hlookup]
                  exact ih (Trail.down hlookup htrail name)

/-- The path can be encoded, has no null character and is not too long. -/
def Usable (path : Path) : Prop :=
  (Encoding.fileName path.toText).isOk = true
    ∧ (path.names.any fun name => name.contains (char '\x00')) = false
    ∧ ¬ maxPath < Utf8.size path.toText

/-- **A path leads to a place.** -/
def Leads (tree : FileTree) (path : Path) (place : Place) : Prop :=
  Usable path ∧ tree.walk (Place.ofAnchor path.anchor) path.names = .ok place

/-- **Where a path leads, and what stands there.** -/
lemma locate_eq_ok_iff {path : Path} {entry : Option FileEntry} :
    tree.locate path = .ok (place, entry) ↔ tree.Leads path place ∧ entry = tree.lookup? place := by
  have htrail : Trail tree (Place.ofAnchor path.anchor).base (Place.ofAnchor path.anchor).names [] := by
    cases path.anchor <;> exact Trail.base
  rw [locate, Leads, Usable]
  cases Encoding.fileName path.toText with
  | error fault => simp [Except.isOk, Except.toBool]
  | ok bytes =>
      dsimp only
      by_cases hnull : (path.names.any fun name => name.contains (char '\x00')) = true
      · rw [if_pos hnull, hnull]
        simp
      rw [if_neg hnull]
      by_cases hlong : maxPath < Utf8.size path.toText
      · rw [if_pos hlong]
        simp [hlong]
      rw [if_neg hlong]
      simp only [follow_eq_walk htrail, Bool.not_eq_true] at hnull ⊢
      simp only [hnull, hlong, Except.isOk, Except.toBool, not_false_eq_true, and_self, true_and]
      cases tree.walk (Place.ofAnchor path.anchor) path.names with
      | error reason => exact ⟨nofun, nofun⟩
      | ok reached =>
          constructor
          · intro hreached
            obtain ⟨rfl, rfl⟩ := Prod.mk.inj (Except.ok.inj hreached)
            exact ⟨rfl, rfl⟩
          · rintro ⟨hreached, rfl⟩
            obtain rfl := Except.ok.inj hreached
            rfl

/-- **When a file is read.** -/
lemma read_eq_ok_iff {path : Path} {content : Bytes} :
    tree.read path = .ok content ↔ ∃ place, tree.Leads path place ∧ tree.sight place = .file content := by
  have hlocate : tree.read path = .ok content
      ↔ ∃ place, tree.locate path = .ok (place, some (.file content)) := by
    rw [read]
    split <;> simp_all
  rw [hlocate]
  refine exists_congr fun place => ?_
  rw [locate_eq_ok_iff, sight, Sight.of_eq_file_iff, eq_comm (a := some (FileEntry.file content))]

end FileTree

end ScenarioScript
