import Mathlib.Tactic.Lemma
import ScenarioScript.Output.Path

/-!
# Paths and file names

A path that has been written is the path that is read, as long as its names are names: not empty, no
dot, and without a slash.  The file name of a scenario is such a name, so that a script goes into
the folder it is meant for, and two scripts of one folder share a file exactly if their slugs agree.

* `Path.ofText_toText` — **a written path is read back.**
* `FileName.isPlain_ofScenario` — what file names look like.
* `Path.child_of_isPlain` — a file in a folder.
-/

namespace ScenarioScript

lemma Anchor.ofText_toText_append (anchor : Anchor) {text : Text}
    (h : text.head? ≠ some (char '/')) :
    Anchor.ofText (anchor.toText ++ text) = anchor := by
  cases text with
  | nil => cases anchor <;> rfl
  | cons c text =>
      have hc : c ≠ char '/' := by simpa using h
      cases anchor with
      | working => simp [Anchor.ofText, Anchor.toText, hc]
      | root => simp [Anchor.ofText, Anchor.toText, hc]
      | doubleRoot => simp [Anchor.ofText, Anchor.toText, hc]

namespace Path

/-! ## Names between slashes -/

lemma split_of_free {name text : Text} (h : char '/' ∉ text) :
    split name text = [name.reverse ++ text] := by
  induction text generalizing name with
  | nil => simp [split]
  | cons c text ih =>
      have hc : c ≠ char '/' := fun hc => h (by simp [hc])
      rw [split, if_neg hc, ih (fun hmem => h (List.mem_cons_of_mem c hmem))]
      simp

lemma split_append_slash {name text : Text} (h : char '/' ∉ text) (rest : Text) :
    split name (text ++ char '/' :: rest) = (name.reverse ++ text) :: split [] rest := by
  induction text generalizing name with
  | nil => simp [split]
  | cons c text ih =>
      have hc : c ≠ char '/' := fun hc => h (by simp [hc])
      rw [List.cons_append, split, if_neg hc, ih (fun hmem => h (List.mem_cons_of_mem c hmem))]
      simp

lemma slash_notMem_of_mem_split {name text part : Text} (hname : char '/' ∉ name)
    (h : part ∈ split name text) : char '/' ∉ part := by
  induction text generalizing name with
  | nil =>
      obtain rfl := List.mem_singleton.mp h
      simpa using hname
  | cons c text ih =>
      rw [split] at h
      split at h
      · rcases List.mem_cons.mp h with rfl | h
        · simpa using hname
        · exact ih (by simp) h
      · rename_i hc
        exact ih (by simp [hname, Ne.symm hc]) h

lemma split_intercalate {names : List Text} (hnames : names ≠ [])
    (hfree : ∀ name ∈ names, char '/' ∉ name) :
    split [] (List.intercalate [char '/'] names) = names := by
  induction names with
  | nil => exact absurd rfl hnames
  | cons name names ih =>
      have hname := hfree name (by simp)
      cases names with
      | nil =>
          rw [List.intercalate_singleton, split_of_free hname]
          rfl
      | cons next rest =>
          rw [List.intercalate_cons_cons, List.append_assoc, List.singleton_append,
            split_append_slash hname,
            ih (by simp) (fun other hother => hfree other (List.mem_cons_of_mem name hother))]
          rfl

/-! ## Reading what was written -/

/-- **A name that means something and has no slash.** -/
def IsPlain (name : Text) : Prop :=
  isName name ∧ char '/' ∉ name

/-- **All names of the path are names.** -/
def WellFormed (path : Path) : Prop :=
  ∀ name ∈ path.names, IsPlain name

lemma isPlain_of_mem_filter_split {text name : Text} (h : name ∈ (split [] text).filter isName) :
    IsPlain name := by
  obtain ⟨hmem, hname⟩ := List.mem_filter.mp h
  exact ⟨hname, slash_notMem_of_mem_split (by simp) hmem⟩

lemma wellFormed_ofText (text : Text) : (ofText text).WellFormed :=
  fun _ h => isPlain_of_mem_filter_split h

lemma WellFormed.child {path : Path} (h : path.WellFormed) (text : Text) :
    (path.child text).WellFormed := by
  intro name hname
  rcases List.mem_append.mp hname with hname | hname
  · exact h name hname
  · exact isPlain_of_mem_filter_split hname

lemma filter_split_of_isPlain {name : Text} (h : IsPlain name) :
    (split [] name).filter isName = [name] := by
  rw [split_of_free h.2]
  simp [h.1]

/-- A plain name stands under the folder it is given to. -/
lemma child_of_isPlain {name : Text} (path : Path) (h : IsPlain name) :
    path.child name = ⟨path.anchor, path.names ++ [name]⟩ := by
  rw [child, filter_split_of_isPlain h]

lemma filter_split_anchor (anchor : Anchor) (text : Text) :
    (split [] (anchor.toText ++ text)).filter isName = (split [] text).filter isName := by
  cases anchor with
  | working => rfl
  | root => simp [Anchor.toText, split, isName]
  | doubleRoot => simp [Anchor.toText, split, isName]

lemma head?_intercalate {names : List Text} (h : ∀ name ∈ names, IsPlain name) :
    (List.intercalate [char '/'] names).head? ≠ some (char '/') := by
  cases names with
  | nil => simp
  | cons name names =>
      obtain ⟨hname, hfree⟩ := h name (by simp)
      cases name with
      | nil => exact absurd hname (by decide)
      | cons c name =>
          have hc : c ≠ char '/' := fun hc => hfree (by simp [hc])
          cases names with
          | nil => simpa using hc
          | cons next rest => simpa [List.intercalate_cons_cons] using hc

/-- **A written path is read back.** -/
lemma ofText_toText {path : Path} (h : path.WellFormed) : ofText path.toText = path := by
  obtain ⟨anchor, names⟩ := path
  rw [toText]
  split
  · rename_i hempty
    obtain ⟨rfl, rfl⟩ : anchor = .working ∧ names = [] := by simpa using hempty
    rfl
  · have hnames : (split [] (List.intercalate [char '/'] names)).filter isName = names := by
      cases names with
      | nil => rfl
      | cons name rest =>
          rw [split_intercalate (by simp) (fun other hother => (h other hother).2)]
          exact List.filter_eq_self.mpr fun other hother => (h other hother).1
    rw [ofText, Anchor.ofText_toText_append anchor (head?_intercalate h), filter_split_anchor, hnames]

end Path

/-! ## File names -/

namespace FileName

lemma isWordChar_of_mem_words {word text part : Text} {c : Letter}
    (hword : ∀ c ∈ word, Text.isWordChar c) (hpart : part ∈ words word text) (hc : c ∈ part) :
    Text.isWordChar c := by
  induction text generalizing word with
  | nil =>
      rw [words] at hpart
      split at hpart
      · exact absurd hpart (by simp)
      · obtain rfl := List.mem_singleton.mp hpart
        exact hword c (by simpa using hc)
  | cons first text ih =>
      rw [words] at hpart
      split at hpart
      · rename_i hfirst
        exact ih (by simpa [hfirst] using hword) hpart
      · split at hpart
        · exact ih (by simp) hpart
        · rcases List.mem_cons.mp hpart with rfl | hpart
          · exact hword c (by simpa using hc)
          · exact ih (by simp) hpart

lemma slash_notMem_intercalate {parts : List Text} (h : ∀ part ∈ parts, char '/' ∉ part) :
    char '/' ∉ List.intercalate [char '-'] parts := by
  induction parts with
  | nil => simp
  | cons part parts ih =>
      have hpart := h part (by simp)
      have hrest := ih fun other hother => h other (List.mem_cons_of_mem part hother)
      cases parts with
      | nil => simpa using hpart
      | cons next rest => simp [List.intercalate_cons_cons, hpart, hrest]

lemma slash_notMem_slug (name : Text) : char '/' ∉ slug name := by
  rw [slug]
  split
  · decide
  · refine slash_notMem_intercalate fun part hpart hslash => ?_
    exact absurd (isWordChar_of_mem_words (by simp) hpart hslash) (by decide)

lemma length_ofScenario (name : Text) : 8 ≤ (ofScenario name defaultSuffix).length := by
  rw [ofScenario, List.length_append]
  exact Nat.le_add_left 8 _

/-- **The file name of a scenario is a name.** -/
lemma isPlain_ofScenario (name : Text) : Path.IsPlain (ofScenario name defaultSuffix) := by
  have hlength := length_ofScenario name
  refine ⟨?_, ?_⟩
  · rw [Path.isName, Bool.and_eq_true]
    refine ⟨?_, ?_⟩
    · rw [Bool.not_eq_true', List.isEmpty_eq_false_iff]
      exact List.ne_nil_of_length_pos (by omega)
    · rw [decide_eq_true_eq]
      intro hdot
      simp [hdot] at hlength
  · rw [ofScenario, List.mem_append, not_or]
    exact ⟨slash_notMem_slug name, by decide⟩

/-- **No file name leads upwards.** -/
lemma ofScenario_ne_up (name : Text) : ofScenario name defaultSuffix ≠ [char '.', char '.'] := by
  intro hup
  have hlength := length_ofScenario name
  simp [hup] at hlength

/-- **Two scenarios share a file name exactly if their slugs agree.** -/
lemma ofScenario_inj {name other suffix : Text} :
    ofScenario name suffix = ofScenario other suffix ↔ slug name = slug other :=
  List.append_left_inj suffix

end FileName

end ScenarioScript
