import Mathlib.Data.List.Infix
import Mathlib.Data.List.TakeWhile
import Mathlib.Tactic.Lemma
import ScenarioScript.Output.Path

/-!
# Slugs

A slug is read off a name in one pass.  What it is can be said without that pass, in two ways.

* `FileName.IsRuns` — **the runs of a text**: the text is cut into runs of letters and digits and
  gaps of other characters, and no two runs touch.  There is one such cut (`isRuns_iff`), so a slug
  is its runs joined by hyphens.
* `FileName.collapse` — **rewriting**: every gap becomes one hyphen, and then the hyphens at both
  ends are removed (`trim_collapse`).

Either way a slug has no hyphen that does not stand between two words (`FileName.IsSlug`).  So it is
safe as the name of a file, and it is its own slug, because its words are its runs
(`isRuns_intercalate`).
-/

namespace ScenarioScript

namespace FileName

/-! ## Runs -/

/-- Text without letters and digits. -/
def IsGap (gap : Text) : Prop :=
  ∀ c ∈ gap, Text.isWordChar c = false

/-- One or more letters and digits. -/
structure IsRun (word : Text) : Prop where
  ne_nil : word ≠ []
  letters : ∀ c ∈ word, Text.isWordChar c = true

lemma isGap_nil : IsGap [] := by
  simp [IsGap]

/-- No run goes on at the start of the text. -/
def Breaks (text : Text) : Prop :=
  ∀ c ∈ text.head?, Text.isWordChar c = false

/-- **The runs of a text**, from left to right.  A run ends where the text does, or in front of a
    character that is no letter or digit. -/
inductive IsRuns : Text → List Text → Prop
  | gap {gap : Text} (foreign : IsGap gap) : IsRuns gap []
  | run {gap word rest : Text} {runs : List Text} (foreign : IsGap gap) (isRun : IsRun word)
      (breaks : Breaks rest) (isRuns : IsRuns rest runs) :
    IsRuns (gap ++ word ++ rest) (word :: runs)

lemma IsRuns.cons {c : Letter} {text : Text} {runs : List Text} (hc : Text.isWordChar c = false)
    (h : IsRuns text runs) : IsRuns (c :: text) runs := by
  cases h with
  | gap foreign => exact .gap (by simpa [IsGap, hc] using foreign)
  | @run gap word rest runs foreign isRun breaks isRuns =>
      have hgap : IsGap (c :: gap) := by simpa [IsGap, hc] using foreign
      exact .run hgap isRun breaks isRuns

/-- The pass over a text finds its runs.  If a run is being read, it belongs to the text. -/
lemma isRuns_words_append (word text : Text) (hword : ∀ c ∈ word, Text.isWordChar c = true) :
    IsRuns (word.reverse ++ text) (words word text) := by
  induction text generalizing word with
  | nil =>
      rw [words]
      split
      · rename_i hempty
        obtain rfl := List.isEmpty_iff.mp hempty
        exact .gap isGap_nil
      · rename_i hne
        have hreverse : IsRun word.reverse :=
          ⟨by simpa using hne, fun c hc => hword c (List.mem_reverse.mp hc)⟩
        exact .run isGap_nil hreverse (by simp [Breaks]) (.gap isGap_nil)
  | cons c text ih =>
      rw [words]
      by_cases hc : Text.isWordChar c = true
      · rw [if_pos hc]
        have hmore := ih (c :: word) (by simpa [hc] using hword)
        simpa using hmore
      · have hforeign : Text.isWordChar c = false := by simpa using hc
        have hrest : IsRuns (c :: text) (words [] text) := (ih [] (by simp)).cons hforeign
        rw [if_neg hc]
        split
        · rename_i hempty
          obtain rfl := List.isEmpty_iff.mp hempty
          exact hrest
        · rename_i hne
          have hreverse : IsRun word.reverse :=
            ⟨by simpa using hne, fun d hd => hword d (List.mem_reverse.mp hd)⟩
          exact .run isGap_nil hreverse (by simp [Breaks, hforeign]) hrest

lemma words_gap_append {gap : Text} (hgap : IsGap gap) (text : Text) :
    words [] (gap ++ text) = words [] text := by
  induction gap with
  | nil => rfl
  | cons c gap ih =>
      have hc := hgap c (by simp)
      have hrest := ih fun d hd => hgap d (List.mem_cons_of_mem c hd)
      simp [words, hc, hrest]

lemma words_word_append {part : Text} (hpart : ∀ c ∈ part, Text.isWordChar c = true)
    (word text : Text) : words word (part ++ text) = words (part.reverse ++ word) text := by
  induction part generalizing word with
  | nil => rfl
  | cons c part ih =>
      have hc := hpart c (by simp)
      have hrest := ih (fun d hd => hpart d (List.mem_cons_of_mem c hd)) (c :: word)
      simp [words, hc, hrest]

/-- A run ends where no letter or digit follows. -/
lemma words_of_breaks {word text : Text} (hword : word ≠ []) (htext : Breaks text) :
    words word text = word.reverse :: words [] text := by
  cases text with
  | nil => simp [words, hword]
  | cons c text =>
      have hc : Text.isWordChar c = false := htext c (by simp)
      simp [words, hc, hword]

/-- **A text has one list of runs**, and this is what the pass over it finds. -/
lemma isRuns_iff {text : Text} {runs : List Text} : IsRuns text runs ↔ words [] text = runs := by
  constructor
  · intro h
    induction h with
    | gap foreign =>
        have hwords := words_gap_append foreign []
        simpa [words] using hwords
    | @run gap word rest runs foreign isRun breaks isRuns ih =>
        have hreverse : word.reverse ++ [] ≠ [] := by simpa using isRun.ne_nil
        rw [List.append_assoc, words_gap_append foreign, words_word_append isRun.letters,
          words_of_breaks hreverse breaks, ih]
        simp
  · rintro rfl
    exact isRuns_words_append [] text (by simp)

lemma IsRuns.isRun {text : Text} {runs : List Text} (h : IsRuns text runs) :
    ∀ word ∈ runs, IsRun word := by
  induction h with
  | gap foreign => simp
  | run foreign isRun breaks isRuns ih => exact List.forall_mem_cons.mpr ⟨isRun, ih⟩

/-! ## Rewriting -/

/-- **Every gap of a text becomes one hyphen.**  `inside` says that the gap at hand already has its
    hyphen. -/
def collapse : (inside : Bool) → Text → Text
  | _, [] => []
  | inside, c :: rest =>
    if Text.isWordChar c then c :: collapse false rest
    else if inside then collapse true rest
    else char '-' :: collapse true rest

/-- What becomes of a gap. -/
def hyphen (gap : Text) : Text :=
  if gap = [] then [] else [char '-']

lemma collapse_word_append {word : Text} (hword : ∀ c ∈ word, Text.isWordChar c = true)
    (text : Text) : collapse false (word ++ text) = word ++ collapse false text := by
  induction word with
  | nil => rfl
  | cons c word ih =>
      have hc := hword c (by simp)
      have hrest := ih fun d hd => hword d (List.mem_cons_of_mem c hd)
      simp [collapse, hc, hrest]

lemma collapse_inside_append {gap : Text} (hgap : IsGap gap) (text : Text) :
    collapse true (gap ++ text) = collapse true text := by
  induction gap with
  | nil => rfl
  | cons c gap ih =>
      have hc := hgap c (by simp)
      have hrest := ih fun d hd => hgap d (List.mem_cons_of_mem c hd)
      simp [collapse, hc, hrest]

/-- A gap in front of a word becomes one hyphen. -/
lemma collapse_gap_append {gap word : Text} (hgap : IsGap gap) (hword : IsRun word)
    (text : Text) :
    collapse false (gap ++ word ++ text) = hyphen gap ++ collapse false (word ++ text) := by
  obtain ⟨first, word, rfl⟩ := List.exists_cons_of_ne_nil hword.ne_nil
  have hfirst := hword.letters first (by simp)
  cases gap with
  | nil => rfl
  | cons c gap =>
      have hc := hgap c (by simp)
      have hrest := collapse_inside_append (fun d hd => hgap d (List.mem_cons_of_mem c hd))
        (first :: word ++ text)
      simp only [List.cons_append] at hrest
      simp [collapse, hyphen, hc, hfirst, hrest]

lemma collapse_gap {gap : Text} (hgap : IsGap gap) : collapse false gap = hyphen gap := by
  cases gap with
  | nil => rfl
  | cons c gap =>
      have hc := hgap c (by simp)
      have hrest := collapse_inside_append (fun d hd => hgap d (List.mem_cons_of_mem c hd)) []
      rw [List.append_nil] at hrest
      simp [collapse, hyphen, hc, hrest]

/-- **What collapsing leaves**: the runs with single hyphens between them, and perhaps a hyphen at
    either end.  There is one in front if the text does not begin with a run. -/
lemma exists_collapse_eq {text : Text} {runs : List Text} (h : IsRuns text runs) :
    ∃ first last : Text,
      collapse false text = hyphen first ++ List.intercalate [char '-'] runs ++ hyphen last
        ∧ (Breaks text → text ≠ [] → first ≠ []) := by
  induction h with
  | @gap gap foreign => exact ⟨gap, [], by simp [collapse_gap foreign, hyphen], by simp⟩
  | @run gap word rest runs foreign isRun breaks isRuns ih =>
      have hfirst : Breaks (gap ++ word ++ rest) → gap ++ word ++ rest ≠ [] → gap ≠ [] := by
        rintro hbreaks - rfl
        obtain ⟨c, word, rfl⟩ := List.exists_cons_of_ne_nil isRun.ne_nil
        have hc := isRun.letters c (by simp)
        simp [Breaks, hc] at hbreaks
      have hstart : collapse false (gap ++ word ++ rest)
          = hyphen gap ++ (word ++ collapse false rest) := by
        rw [collapse_gap_append foreign isRun, collapse_word_append isRun.letters]
      cases isRuns with
      | gap behind =>
          refine ⟨gap, rest, ?_, hfirst⟩
          rw [hstart, collapse_gap behind]
          simp
      | @run inner next behind runs foreign' isRun' breaks' isRuns' =>
          obtain ⟨first, last, hcollapse, hlead⟩ := ih
          -- the next run does not touch this one, so its gap has left a hyphen
          have hne : first ≠ [] := hlead breaks (by simp [isRun'.ne_nil])
          refine ⟨gap, last, ?_, hfirst⟩
          rw [hstart, hcollapse, List.intercalate_cons_cons]
          simp [hyphen, hne]

/-! ## Words joined by hyphens -/

/-- **A slug**: letters and digits, with single hyphens between them. -/
structure IsSlug (text : Text) : Prop where
  ne_nil : text ≠ []
  letters : ∀ c ∈ text, Text.isWordChar c = true ∨ c = char '-'
  head : text.head? ≠ some (char '-')
  last : text.getLast? ≠ some (char '-')
  single : ¬ [char '-', char '-'] <:+: text

lemma isWordChar_hyphen : Text.isWordChar (char '-') = false := by
  decide

lemma IsRun.hyphen_notMem {word : Text} (h : IsRun word) : char '-' ∉ word := by
  intro hmem
  have hletter := h.letters (char '-') hmem
  simp [isWordChar_hyphen] at hletter

/-- A hyphen pair does not begin inside a word. -/
lemma infix_of_infix_append {word text : Text} (hword : char '-' ∉ word)
    (h : [char '-', char '-'] <:+: word ++ text) : [char '-', char '-'] <:+: text := by
  induction word with
  | nil => exact h
  | cons c word ih =>
      simp only [List.mem_cons, not_or] at hword
      rcases List.infix_cons_iff.mp h with hstart | hinside
      · exact absurd (List.cons_prefix_cons.mp hstart).1 hword.1
      · exact ih hword.2 hinside

lemma IsRun.isSlug {word : Text} (h : IsRun word) : IsSlug word where
  ne_nil := h.ne_nil
  letters c hc := .inl (h.letters c hc)
  head hhead := h.hyphen_notMem (List.mem_of_head? hhead)
  last hlast := h.hyphen_notMem (List.mem_of_getLast? hlast)
  single hinside := h.hyphen_notMem (hinside.subset (by simp))

/-- A word in front of a slug. -/
lemma IsRun.isSlug_append {word text : Text} (hword : IsRun word) (h : IsSlug text) :
    IsSlug (word ++ char '-' :: text) where
  ne_nil := by simp
  letters c hc := by
    rcases List.mem_append.mp hc with hc | hc
    · exact .inl (hword.letters c hc)
    · rcases List.mem_cons.mp hc with rfl | hc
      · exact .inr rfl
      · exact h.letters c hc
  head := by
    obtain ⟨c, word, rfl⟩ := List.exists_cons_of_ne_nil hword.ne_nil
    intro hhead
    have hc : c = char '-' := by simpa using hhead
    exact hword.hyphen_notMem (by simp [hc])
  last := by
    rw [List.getLast?_append_of_ne_nil _ (by simp), List.getLast?_cons_of_ne_nil h.ne_nil]
    exact h.last
  single := by
    intro hinside
    have hbehind := infix_of_infix_append hword.hyphen_notMem hinside
    rcases List.infix_cons_iff.mp hbehind with hpair | htext
    · obtain ⟨rest, hrest⟩ := (List.cons_prefix_cons.mp hpair).2
      exact h.head (by simp [← hrest])
    · exact h.single htext

/-- **Words joined by hyphens are a slug.** -/
lemma isSlug_intercalate {parts : List Text} (hne : parts ≠ [])
    (hparts : ∀ part ∈ parts, IsRun part) : IsSlug (List.intercalate [char '-'] parts) := by
  induction parts with
  | nil => exact absurd rfl hne
  | cons word parts ih =>
      obtain ⟨hword, hrest⟩ := List.forall_mem_cons.mp hparts
      cases parts with
      | nil => simpa using hword.isSlug
      | cons next parts =>
          rw [List.intercalate_cons_cons, List.append_assoc]
          exact hword.isSlug_append (ih (by simp) hrest)

/-- **Words joined by hyphens are the runs of the text.** -/
lemma isRuns_intercalate {parts : List Text} (hparts : ∀ part ∈ parts, IsRun part) :
    IsRuns (List.intercalate [char '-'] parts) parts := by
  induction parts with
  | nil => exact .gap isGap_nil
  | cons word parts ih =>
      obtain ⟨hword, hrest⟩ := List.forall_mem_cons.mp hparts
      cases parts with
      | nil =>
          have hbreaks : Breaks [] := by simp [Breaks]
          have hrun := IsRuns.run isGap_nil hword hbreaks (.gap isGap_nil)
          simpa using hrun
      | cons next parts =>
          have hbreaks : Breaks (char '-' :: List.intercalate [char '-'] (next :: parts)) := by
            simp [Breaks, isWordChar_hyphen]
          have hrun := IsRuns.run isGap_nil hword hbreaks ((ih hrest).cons isWordChar_hyphen)
          rw [List.intercalate_cons_cons]
          simpa using hrun

/-- Trimming removes what is of the class on both sides of a text that neither begins nor ends with
    such a character. -/
lemma trim_append {drop : Letter → Bool} {lead middle tail : Text}
    (hlead : ∀ c ∈ lead, drop c = true) (htail : ∀ c ∈ tail, drop c = true)
    (hhead : ∀ c ∈ middle.head?, drop c = false) (hlast : ∀ c ∈ middle.getLast?, drop c = false) :
    Text.trim drop (lead ++ middle ++ tail) = middle := by
  have hfront : (lead ++ middle ++ tail).dropWhile drop
      = if middle = [] then [] else middle ++ tail := by
    rw [List.append_assoc, List.dropWhile_append_of_pos hlead]
    cases middle with
    | nil => simpa [List.dropWhile_eq_nil_iff] using htail
    | cons c middle => simp [hhead c (by simp)]
  have hback : (tail.reverse ++ middle.reverse).dropWhile drop = middle.reverse := by
    rw [List.dropWhile_append_of_pos (by simpa using htail)]
    cases hreverse : middle.reverse with
    | nil => rfl
    | cons c rest =>
        have hc : drop c = false := hlast c (by simp [← List.head?_reverse, hreverse])
        simp [hc]
  rw [Text.trim, hfront]
  split
  · rename_i hempty
    simp [hempty]
  · rw [List.reverse_append, hback, List.reverse_reverse]

/-- **Rewriting gives the runs**: collapsed and without hyphens at its ends, a text is its runs
    joined by hyphens. -/
lemma trim_collapse {text : Text} {runs : List Text} (h : IsRuns text runs) :
    Text.trim (· = char '-') (collapse false text) = List.intercalate [char '-'] runs := by
  have hhyphen : ∀ gap : Text, ∀ c ∈ hyphen gap, decide (c = char '-') = true := by
    intro gap c hc
    rw [hyphen] at hc
    split at hc
    · simp at hc
    · simpa using hc
  obtain ⟨first, last, hcollapse, -⟩ := exists_collapse_eq h
  rw [hcollapse]
  by_cases hruns : runs = []
  · subst hruns
    exact trim_append (hhyphen first) (hhyphen last) (by simp) (by simp)
  · have hslug := isSlug_intercalate hruns h.isRun
    refine trim_append (hhyphen first) (hhyphen last) ?_ ?_
    · intro c hc
      have hhead := hslug.head
      simp only [Option.mem_def] at hc
      simpa [hc] using hhead
    · intro c hc
      have hlast := hslug.last
      simp only [Option.mem_def] at hc
      simpa [hc] using hlast

/-! ## Slugs of names -/

/-- The words of a slug: those of the name, or the one word that stands for a name without any. -/
def parts (runs : List Text) : List Text :=
  if runs = [] then ["scenario".toText] else runs

lemma isRun_of_mem_parts {runs : List Text} (h : ∀ word ∈ runs, IsRun word) :
    parts runs ≠ [] ∧ ∀ part ∈ parts runs, IsRun part := by
  rw [parts]
  split
  · have hletters : "scenario".toText.all Text.isWordChar = true := by decide
    have hscenario : IsRun "scenario".toText := ⟨by decide, List.all_eq_true.mp hletters⟩
    simpa using hscenario
  · rename_i hne
    exact ⟨hne, h⟩

/-- **The slug of a name** is made of the runs of the lower-cased name. -/
lemma slug_eq_intercalate {name : Text} {runs : List Text} (h : IsRuns (Text.lower name) runs) :
    slug name = List.intercalate [char '-'] (parts runs) := by
  rw [slug, isRuns_iff.mp h, parts]
  cases runs with
  | nil => simp
  | cons word runs => simp

/-- Small letters, digits and the hyphen are their own lower case. -/
lemma lowerEach_of_isWordChar {c : Letter} (h : Text.isWordChar c = true ∨ c = char '-') :
    Text.lowerEach c = [c] := by
  have hrange : (97 ≤ c.toNat ∧ c.toNat ≤ 122) ∨ (48 ≤ c.toNat ∧ c.toNat ≤ 57) ∨ c.toNat = 45 := by
    rcases h with h | rfl
    · simp only [Text.isWordChar, Bool.or_eq_true, Bool.and_eq_true, decide_eq_true_eq] at h
      omega
    · exact .inr (.inr rfl)
  cases c with
  | half index => rfl
  | char c =>
      rw [Letter.toNat_char] at hrange
      have hkelvin : c ≠ '\u212A' := by
        rintro rfl
        revert hrange
        decide
      have hdotted : c ≠ '\u0130' := by
        rintro rfl
        revert hrange
        decide
      have hlower : c.toLower = c := by
        refine dif_neg ?_
        rintro ⟨hlow, hhigh⟩
        simp only [ge_iff_le, UInt32.le_iff_toNat_le] at hlow hhigh
        have hA : 65 ≤ c.toNat := hlow
        have hZ : c.toNat ≤ 90 := hhigh
        omega
      simp [Text.lowerEach, hkelvin, hdotted, hlower]

/-- Lower-casing leaves slugs as they are. -/
lemma IsSlug.lower {text : Text} (h : IsSlug text) : Text.lower text = text := by
  have heach : ∀ c ∈ text, Text.lowerEach c = [c] := by
    intro c hc
    exact lowerEach_of_isWordChar (h.letters c hc)
  have hall : text.flatMap Text.lowerEach = text.flatMap fun c => [c] := by
    simp only [List.flatMap_def]
    rw [List.map_congr_left heach]
  rw [Text.lower, Text.replaceEach, hall]
  simp

/-- **What a file name is made of**, whatever the name of the scenario.

    * The lower-cased name has one list of runs, and the slug is these runs joined by hyphens, or
      the word `scenario` if there are none.  The suffix stands behind it.
    * It is the same to write one hyphen for every gap and to remove those at the ends.
    * The slug is not empty, and has no hyphen at its ends and no two in a row.  There is no
      separator of paths in it, and no dot.
    * The slug of a slug is the slug itself. -/
theorem file_name_is_joined_runs (name suffix : Text) :
    (∃! runs, IsRuns (Text.lower name) runs
        ∧ ofScenario name suffix
          = (if runs = [] then "scenario".toText else List.intercalate [char '-'] runs) ++ suffix)
      ∧ slug name = (if Text.trim (· = char '-') (collapse false (Text.lower name)) = [] then
            "scenario".toText
          else Text.trim (· = char '-') (collapse false (Text.lower name)))
      ∧ IsSlug (slug name) ∧ char '/' ∉ slug name ∧ char '\\' ∉ slug name ∧ char '.' ∉ slug name
      ∧ ofScenario (slug name) suffix = ofScenario name suffix := by
  obtain ⟨runs, hruns⟩ : ∃ runs, IsRuns (Text.lower name) runs := ⟨_, isRuns_iff.mpr rfl⟩
  obtain ⟨hne, hwords⟩ := isRun_of_mem_parts hruns.isRun
  have hslug := slug_eq_intercalate hruns
  have hisSlug : IsSlug (slug name) := hslug ▸ isSlug_intercalate hne hwords
  have hjoined : List.intercalate [char '-'] (parts runs)
      = if runs = [] then "scenario".toText else List.intercalate [char '-'] runs := by
    rw [parts]
    split <;> simp
  have hnotMem : ∀ c : Letter, Text.isWordChar c = false → c ≠ char '-' → c ∉ slug name := by
    intro c hc hhyphen hmem
    rcases hisSlug.letters c hmem with hletter | rfl
    · simp [hc] at hletter
    · exact hhyphen rfl
  refine ⟨⟨runs, ⟨hruns, by rw [ofScenario, hslug, hjoined]⟩, ?_⟩, ?_, hisSlug,
    hnotMem (char '/') (by decide) (by decide), hnotMem (char '\\') (by decide) (by decide),
    hnotMem (char '.') (by decide) (by decide), ?_⟩
  · rintro other ⟨hother, -⟩
    exact (isRuns_iff.mp hother).symm.trans (isRuns_iff.mp hruns)
  · have hempty : List.intercalate [char '-'] runs = [] ↔ runs = [] := by
      refine ⟨fun h => ?_, fun h => by simp [h]⟩
      by_contra hsome
      exact (isSlug_intercalate hsome hruns.isRun).ne_nil h
    rw [hslug, hjoined, trim_collapse hruns]
    simp only [hempty]
  · -- the words of the slug are its runs
    have hagain : IsRuns (Text.lower (slug name)) (parts runs) := by
      rw [hisSlug.lower, hslug]
      exact isRuns_intercalate hwords
    have hparts : parts (parts runs) = parts runs := if_neg hne
    rw [ofScenario, ofScenario, slug_eq_intercalate hagain, hparts, hslug]

-- Gaps at both ends and inside, and two characters whose lower case has a letter in it.
example : ofScenario "--Log In!! (\u212Aelvin)\u0130".toText defaultSuffix
    = "log-in-kelvin-i.spec.ts".toText := by
  decide

end FileName

end ScenarioScript
