import Mathlib.Data.List.Forall2
import Mathlib.Tactic.Lemma
import ScenarioScript.Compilation

/-!
# Which values are scenarios, and what is wrong with the others

Loading reads four fields, each on its own.  So an object is a scenario exactly if all four are as
they should be, and otherwise the problems of the four are listed one after the other.

* `Scenario.Describes` — an object describes a scenario, `Scenario.IsLine` and
  `Scenario.IsStatements` — what its fields have to be.
* `Scenario.LineFault`, `Scenario.ListFault` — what can be wrong with a field, and
  `Scenario.Violates` — **what is wrong with an object**, without any order of checks.
* `Scenario.IsDiagnosis` — a list of problems is complete, and each problem stands in it once, at
  its place.
* `Scenario.ofFields_eq_ok_iff`, `Scenario.isDiagnosis_of_ofFields` — **an object that is a
  scenario, and one that is none.**
* `Scenario.load_accepts_or_diagnoses` — all of it, for one scenario and for lists.
-/

namespace ScenarioScript

namespace Scenario

/-! ## What a scenario looks like -/

/-- **A line**: a string with a letter that is not a blank. -/
def IsLine (value : Json) (line : Text) : Prop :=
  value = .string line ∧ ∃ c ∈ line, Text.isBlank c = false

/-- **Statements**: a list of strings that is not empty, or a string on its own. -/
inductive IsStatements : Json → List Text → Prop where
  | single (statement : Text) : IsStatements (.string statement) [statement]
  | list {statements : List Text} :
      statements ≠ [] → IsStatements (.array (statements.map .string)) statements

/-- **The fields of an object describe a scenario**: nothing is added and nothing is changed. -/
structure Describes (fields : List (Text × Json)) (scenario : Scenario) : Prop where
  name : ∃ value, Association.get? "name".toText fields = some value ∧ IsLine value scenario.name
  given : ∃ value, Association.get? "given".toText fields = some value ∧ IsLine value scenario.given
  actions : ∃ value, Association.get? "when".toText fields = some value
    ∧ IsStatements value scenario.actions
  outcomes : ∃ value, Association.get? "then".toText fields = some value
    ∧ IsStatements value scenario.outcomes

/-! ## What can be wrong -/

def isString : Json → Bool
  | .string _ => true
  | _ => false

/-- **A value is no text**, and this is the issue with it. -/
def IsNoText (value : Json) (issue : Issue) : Prop :=
  (∀ text, value ≠ .string text) ∧ issue = .notString

/-- The items that a value stands for; a string stands for itself. -/
inductive StandsFor : Json → List Json → Prop where
  | list (items : List Json) : StandsFor (.array items) items
  | single (statement : Text) : StandsFor (.string statement) [.string statement]

/-- **What can be wrong with a line.** -/
inductive LineFault : Option Json → Issue → Prop where
  | missing : LineFault none .missing
  | noText {value : Json} {issue : Issue} : IsNoText value issue → LineFault (some value) issue
  | blank {line : Text} :
      (∀ c ∈ line, Text.isBlank c = true) → LineFault (some (.string line)) .blank

/-- **What can be wrong with statements**: with all of them, or with the one that has an index. -/
inductive ListFault : Option Json → Option Nat → Issue → Prop where
  | missing : ListFault none none .missing
  | notList {value : Json} : isString value = false → (∀ items, value ≠ .array items) →
      ListFault (some value) none .notList
  | empty : ListFault (some (.array [])) none .empty
  | item {value item : Json} {items : List Json} {index : Nat} {issue : Issue} :
      StandsFor value items → items[index]? = some item → IsNoText item issue →
      ListFault (some value) (some index) issue

/-- **What is wrong with an object.** -/
inductive Violates (fields : List (Text × Json)) : Problem → Prop where
  | line {field : Text} {issue : Issue} : field ∈ ["name".toText, "given".toText] →
      LineFault (Association.get? field fields) issue → Violates fields ⟨field, none, issue⟩
  | statements {field : Text} {index : Option Nat} {issue : Issue} :
      field ∈ ["when".toText, "then".toText] →
      ListFault (Association.get? field fields) index issue → Violates fields ⟨field, index, issue⟩

/-- The place of a field among the fields of a scenario. -/
def rank (field : Text) : Nat :=
  ["name".toText, "given".toText, "when".toText, "then".toText].idxOf field

/-- **The order of problems**: by their fields, and those of one field by their items. -/
def Problem.Precedes (first second : Problem) : Prop :=
  rank first.field < rank second.field
    ∨ (first.field = second.field
      ∧ ∃ i j, first.index = some i ∧ second.index = some j ∧ i < j)

/-- **The diagnosis of an object that is no scenario**: the list has every problem and nothing else,
    in order.  As no problem precedes itself, each stands there once, and a problem of a whole field
    is the only one of that field. -/
structure IsDiagnosis (fields : List (Text × Json)) (problems : List Problem) : Prop where
  nonempty : problems ≠ []
  complete : ∀ problem, problem ∈ problems ↔ Violates fields problem
  ordered : problems.Pairwise Problem.Precedes

/-! ## Texts -/

variable {value : Json} {fields : List (Text × Json)} {field line : Text} {issue : Issue}
  {problem : Problem}

lemma text_eq_ok_iff : text value = .ok line ↔ value = .string line := by
  cases value <;> simp [text]

lemma text_eq_error_iff : text value = .error issue ↔ IsNoText value issue := by
  cases value <;> simp [text, IsNoText, eq_comm]

/-- A string is a line, or it has nothing but blanks. -/
lemma nonBlank_string (line : Text) :
    (nonBlank (.string line) = .ok line ∧ ∃ c ∈ line, Text.isBlank c = false)
      ∨ (nonBlank (.string line) = .error .blank ∧ ∀ c ∈ line, Text.isBlank c = true) := by
  cases hblank : Text.isBlankOnly line with
  | true => exact .inr ⟨by simp [nonBlank, text, hblank], by simpa [Text.isBlankOnly] using hblank⟩
  | false => exact .inl ⟨by simp [nonBlank, text, hblank], by simpa [Text.isBlankOnly] using hblank⟩

/-- **When a line is accepted.** -/
lemma nonBlank_eq_ok_iff : nonBlank value = .ok line ↔ IsLine value line := by
  constructor
  · intro h
    cases htext : text value with
    | error issue => simp [nonBlank, htext] at h
    | ok found =>
        obtain rfl := text_eq_ok_iff.mp htext
        rcases nonBlank_string found with ⟨hok, hsome⟩ | ⟨herror, -⟩
        · obtain rfl := Except.ok.inj (hok.symm.trans h)
          exact ⟨rfl, hsome⟩
        · exact absurd (herror.symm.trans h) (by simp)
  · rintro ⟨rfl, c, hc, hne⟩
    rcases nonBlank_string line with ⟨hok, -⟩ | ⟨-, hall⟩
    · exact hok
    · exact absurd (hall c hc) (by simp [hne])

/-- **When a line is refused, and why.** -/
lemma nonBlank_eq_error_iff : nonBlank value = .error issue ↔ LineFault (some value) issue := by
  constructor
  · intro h
    cases htext : text value with
    | error found =>
        obtain rfl : found = issue := by simpa [nonBlank, htext] using h
        exact .noText (text_eq_error_iff.mp htext)
    | ok found =>
        obtain rfl := text_eq_ok_iff.mp htext
        rcases nonBlank_string found with ⟨hok, -⟩ | ⟨herror, hall⟩
        · exact absurd (hok.symm.trans h) (by simp)
        · obtain rfl := Except.error.inj (herror.symm.trans h)
          exact .blank hall
  · intro h
    cases h with
    | noText hno => simp [nonBlank, text_eq_error_iff.mpr hno]
    | blank hall =>
        rename_i line
        rcases nonBlank_string line with ⟨-, c, hc, hne⟩ | ⟨herror, -⟩
        · exact absurd (hall c hc) (by simp [hne])
        · exact herror

/-! ## Lists of texts -/

/-- **The problems of the items of a list**: one for each item that is no text. -/
lemma mem_itemProblems_iff {start : Nat} {items : List Json} :
    problem ∈ itemProblems field start items
      ↔ problem.field = field ∧ ∃ index item, items[index]? = some item
        ∧ problem.index = some (start + index) ∧ IsNoText item problem.issue := by
  induction items generalizing start with
  | nil => simp [itemProblems]
  | cons first items ih =>
      -- the first item has the index zero, and the others count from one more
      have hsplit : (∃ index item, (first :: items)[index]? = some item
            ∧ problem.index = some (start + index) ∧ IsNoText item problem.issue)
          ↔ (problem.index = some start ∧ IsNoText first problem.issue)
            ∨ ∃ index item, items[index]? = some item
              ∧ problem.index = some (start + 1 + index) ∧ IsNoText item problem.issue := by
        constructor
        · rintro ⟨index, item, hitem, hindex, hno⟩
          cases index with
          | zero =>
              obtain rfl : first = item := by simpa using hitem
              exact .inl ⟨hindex, hno⟩
          | succ index =>
              refine .inr ⟨index, item, by simpa using hitem, ?_, hno⟩
              rw [hindex, Nat.add_right_comm, Nat.add_assoc]
        · rintro (⟨hindex, hno⟩ | ⟨index, item, hitem, hindex, hno⟩)
          · exact ⟨0, first, rfl, hindex, hno⟩
          · refine ⟨index + 1, item, by simpa using hitem, ?_, hno⟩
            rw [hindex, Nat.add_right_comm, Nat.add_assoc]
      rw [hsplit, itemProblems]
      cases htext : text first with
      | ok found =>
          have hno : ¬ IsNoText first problem.issue := by
            rw [← text_eq_error_iff, htext]
            simp
          simp only [ih, hno, and_false, false_or]
      | error issue =>
          have hno : IsNoText first problem.issue ↔ issue = problem.issue := by
            rw [← text_eq_error_iff, htext, Except.error.injEq]
          rw [List.mem_cons, ih, hno]
          constructor
          · rintro (rfl | ⟨hfield, hrest⟩)
            · exact ⟨rfl, .inl ⟨rfl, rfl⟩⟩
            · exact ⟨hfield, .inr hrest⟩
          · rintro ⟨hfield, ⟨hindex, hissue⟩ | hrest⟩
            · obtain ⟨field, index, issue⟩ := problem
              simp_all
            · exact .inr ⟨hfield, hrest⟩

lemma pairwise_itemProblems (field : Text) (start : Nat) (items : List Json) :
    (itemProblems field start items).Pairwise Problem.Precedes := by
  induction items generalizing start with
  | nil => exact .nil
  | cons first items ih =>
      rw [itemProblems]
      cases text first with
      | ok found => exact ih (start + 1)
      | error issue =>
          refine List.pairwise_cons.mpr ⟨fun later hlater => .inr ?_, ih (start + 1)⟩
          obtain ⟨hfield, index, item, -, hindex, -⟩ := mem_itemProblems_iff.mp hlater
          exact ⟨hfield.symm, start, _, rfl, hindex, by omega⟩

/-- **A list without problems is one of strings.** -/
lemma itemProblems_eq_nil_iff {start : Nat} {items : List Json} :
    itemProblems field start items = [] ↔ ∃ texts : List Text, items = texts.map .string := by
  induction items generalizing start with
  | nil => simp [itemProblems]
  | cons first items ih =>
      rw [itemProblems]
      cases htext : text first with
      | error issue =>
          have hne := (text_eq_error_iff.mp htext).1
          simp only [reduceCtorEq, false_iff, not_exists]
          intro texts htexts
          cases texts with
          | nil => simp at htexts
          | cons found texts => exact hne found (List.cons.inj htexts).1
      | ok found =>
          obtain rfl := text_eq_ok_iff.mp htext
          rw [ih]
          constructor
          · rintro ⟨texts, rfl⟩
            exact ⟨found :: texts, rfl⟩
          · rintro ⟨texts, htexts⟩
            cases texts with
            | nil => simp at htexts
            | cons other texts => exact ⟨texts, (List.cons.inj htexts).2⟩

lemma itemTexts_map_string (texts : List Text) : itemTexts (texts.map .string) = texts := by
  simp [itemTexts, List.filterMap_map, text, Except.toOption]

lemma itemsOf?_eq_some_iff {items : List Json} :
    itemsOf? value = some items ↔ StandsFor value items := by
  constructor
  · intro h
    cases value <;> simp only [itemsOf?, Option.some.injEq, reduceCtorEq] at h
    · obtain rfl := h
      exact .single _
    · obtain rfl := h
      exact .list _
  · intro h
    cases h with
    | list items => rfl
    | single statement => rfl

lemma itemsOf?_eq_none_iff :
    itemsOf? value = none ↔ isString value = false ∧ ∀ items, value ≠ .array items := by
  cases value <;> simp [itemsOf?, isString]

/-! ## Fields -/

/-- **When a line is read.** -/
lemma loadText_eq_ok_iff :
    loadText fields field = .ok line
      ↔ ∃ value, Association.get? field fields = some value ∧ IsLine value line := by
  rw [loadText]
  cases Association.get? field fields with
  | none => simp
  | some value =>
      simp only [Option.some.injEq, exists_eq_left', ← nonBlank_eq_ok_iff]
      cases nonBlank value <;> simp

/-- **The problem of a line.** -/
lemma loadText_eq_error_iff {problems : List Problem} :
    loadText fields field = .error problems
      ↔ ∃ issue, LineFault (Association.get? field fields) issue
        ∧ problems = [⟨field, none, issue⟩] := by
  rw [loadText]
  cases Association.get? field fields with
  | none =>
      simp only [Except.error.injEq]
      constructor
      · rintro rfl
        exact ⟨.missing, .missing, rfl⟩
      · rintro ⟨issue, ⟨⟩, rfl⟩
        rfl
  | some value =>
      simp only [← nonBlank_eq_error_iff]
      cases nonBlank value with
      | ok found => simp
      | error issue => simp [eq_comm]

lemma mem_problemsOf_loadText_iff :
    problem ∈ problemsOf (loadText fields field)
      ↔ problem.field = field ∧ problem.index = none
        ∧ LineFault (Association.get? field fields) problem.issue := by
  have hmem : problem ∈ problemsOf (loadText fields field)
      ↔ ∃ problems, loadText fields field = .error problems ∧ problem ∈ problems := by
    cases loadText fields field <;> simp [problemsOf]
  rw [hmem]
  simp only [loadText_eq_error_iff]
  constructor
  · rintro ⟨problems, ⟨issue, hfault, rfl⟩, hproblem⟩
    obtain rfl := List.mem_singleton.mp hproblem
    exact ⟨rfl, rfl, hfault⟩
  · obtain ⟨found, index, issue⟩ := problem
    rintro ⟨rfl, rfl, hfault⟩
    exact ⟨_, ⟨issue, hfault, rfl⟩, by simp⟩

lemma pairwise_problemsOf_loadText (fields : List (Text × Json)) (field : Text) :
    (problemsOf (loadText fields field)).Pairwise Problem.Precedes := by
  cases hload : loadText fields field with
  | ok found => exact .nil
  | error problems =>
      obtain ⟨issue, -, rfl⟩ := loadText_eq_error_iff.mp hload
      simp [problemsOf]

lemma loadText_ne_error_nil : loadText fields field ≠ .error [] := by
  simp [loadText_eq_error_iff]

section Statements

variable {statements : List Text} {items : List Json}

lemma StandsFor.unique {others : List Json} (h : StandsFor value items)
    (h' : StandsFor value others) : items = others :=
  Option.some.inj ((itemsOf?_eq_some_iff.mpr h).symm.trans (itemsOf?_eq_some_iff.mpr h'))

/-- **Statements are what stands for strings**, one or more of them. -/
lemma isStatements_iff :
    IsStatements value statements
      ↔ statements ≠ [] ∧ StandsFor value (statements.map .string) := by
  constructor
  · intro h
    cases h with
    | single statement => exact ⟨by simp, .single statement⟩
    | list hne => exact ⟨hne, .list _⟩
  · rintro ⟨hne, hstands⟩
    generalize hitems : statements.map Json.string = items at hstands
    cases hstands with
    | list items =>
        subst hitems
        exact .list hne
    | single statement =>
        obtain ⟨found, rfl, hfound⟩ := List.map_eq_singleton_iff.mp hitems
        obtain rfl := Json.string.inj hfound
        exact .single found

lemma loadTexts_of_get?_eq_none (hget : Association.get? field fields = none) :
    loadTexts fields field = .error [⟨field, none, .missing⟩] := by
  rw [loadTexts, hget]

lemma loadTexts_of_itemsOf?_eq_none (hget : Association.get? field fields = some value)
    (hitems : itemsOf? value = none) :
    loadTexts fields field = .error [⟨field, none, .notList⟩] := by
  simp only [loadTexts, hget, hitems]

lemma loadTexts_of_standsFor (hget : Association.get? field fields = some value)
    (h : StandsFor value items) :
    loadTexts fields field
      = if items = [] then .error [⟨field, none, .empty⟩]
        else if itemProblems field 0 items = [] then .ok (itemTexts items)
        else .error (itemProblems field 0 items) := by
  simp only [loadTexts, hget, itemsOf?_eq_some_iff.mpr h]
  cases items with
  | nil => rfl
  | cons first rest =>
      rw [if_neg (List.cons_ne_nil first rest)]
      split
      · rename_i hnone
        rw [if_pos hnone]
        rfl
      · rename_i hsome
        rw [if_neg hsome]

/-- **When statements are read.** -/
lemma loadTexts_eq_ok_iff :
    loadTexts fields field = .ok statements
      ↔ ∃ value, Association.get? field fields = some value ∧ IsStatements value statements := by
  cases hget : Association.get? field fields with
  | none => simp [loadTexts_of_get?_eq_none hget]
  | some value =>
      simp only [Option.some.injEq, exists_eq_left', isStatements_iff]
      cases hitems : itemsOf? value with
      | none =>
          simp only [loadTexts_of_itemsOf?_eq_none hget hitems, reduceCtorEq, false_iff, not_and]
          intro _ hstands
          rw [itemsOf?_eq_some_iff.mpr hstands] at hitems
          exact absurd hitems (by simp)
      | some items =>
          have hstands := itemsOf?_eq_some_iff.mp hitems
          rw [loadTexts_of_standsFor hget hstands]
          constructor
          · intro h
            split at h
            · exact absurd h (by simp)
            · rename_i hne
              split at h
              · rename_i hnone
                obtain ⟨texts, rfl⟩ := itemProblems_eq_nil_iff.mp hnone
                rw [itemTexts_map_string] at h
                obtain rfl := Except.ok.inj h
                exact ⟨by simpa using hne, hstands⟩
              · exact absurd h (by simp)
          · rintro ⟨hne, hothers⟩
            obtain rfl := hothers.unique hstands
            rw [if_neg (by simpa using hne), if_pos (itemProblems_eq_nil_iff.mpr ⟨_, rfl⟩),
              itemTexts_map_string]

lemma problemsOf_loadTexts_of_standsFor (hget : Association.get? field fields = some value)
    (h : StandsFor value items) :
    problemsOf (loadTexts fields field)
      = if items = [] then [⟨field, none, .empty⟩] else itemProblems field 0 items := by
  rw [loadTexts_of_standsFor hget h]
  split
  · rfl
  · split
    · rename_i hnone
      rw [hnone]
      rfl
    · rfl

/-- **The problems of statements.** -/
lemma mem_problemsOf_loadTexts_iff :
    problem ∈ problemsOf (loadTexts fields field)
      ↔ problem.field = field
        ∧ ListFault (Association.get? field fields) problem.index problem.issue := by
  obtain ⟨found, index, issue⟩ := problem
  cases hget : Association.get? field fields with
  | none =>
      simp only [loadTexts_of_get?_eq_none hget, problemsOf, List.mem_singleton, Problem.mk.injEq]
      refine and_congr_right fun _ => ⟨?_, ?_⟩
      · rintro ⟨rfl, rfl⟩
        exact .missing
      · rintro ⟨⟩
        exact ⟨rfl, rfl⟩
  | some value =>
      cases hitems : itemsOf? value with
      | none =>
          have hno := itemsOf?_eq_none_iff.mp hitems
          simp only [loadTexts_of_itemsOf?_eq_none hget hitems, problemsOf, List.mem_singleton,
            Problem.mk.injEq]
          refine and_congr_right fun _ => ⟨?_, fun h => ?_⟩
          · rintro ⟨rfl, rfl⟩
            exact .notList hno.1 hno.2
          · cases h with
            | notList _ _ => exact ⟨rfl, rfl⟩
            | empty => exact absurd rfl (hno.2 [])
            | item hstands _ _ =>
                rw [itemsOf?_eq_some_iff.mpr hstands] at hitems
                exact absurd hitems (by simp)
      | some items =>
          have hstands := itemsOf?_eq_some_iff.mp hitems
          rw [problemsOf_loadTexts_of_standsFor hget hstands]
          by_cases hempty : items = []
          · subst hempty
            cases hstands
            simp only [if_true, List.mem_singleton, Problem.mk.injEq]
            refine and_congr_right fun _ => ⟨?_, fun h => ?_⟩
            · rintro ⟨rfl, rfl⟩
              exact .empty
            · cases h with
              | notList _ hlist => exact absurd rfl (hlist [])
              | empty => exact ⟨rfl, rfl⟩
              | item hothers hitem _ =>
                  obtain rfl := StandsFor.unique (.list []) hothers
                  simp at hitem
          · rw [if_neg hempty, mem_itemProblems_iff]
            refine and_congr_right fun _ => ⟨?_, fun h => ?_⟩
            · rintro ⟨position, item, hitem, hindex, hno⟩
              obtain rfl : index = some position := by simpa using hindex
              exact .item hstands hitem hno
            · cases h with
              | notList hstring hlist =>
                  rw [itemsOf?_eq_none_iff.mpr ⟨hstring, hlist⟩] at hitems
                  exact absurd hitems (by simp)
              | empty => exact absurd (hstands.unique (.list [])) hempty
              | item hothers hitem hno =>
                  obtain rfl := hstands.unique hothers
                  exact ⟨_, _, hitem, by simp, hno⟩

lemma pairwise_problemsOf_loadTexts (fields : List (Text × Json)) (field : Text) :
    (problemsOf (loadTexts fields field)).Pairwise Problem.Precedes := by
  cases hget : Association.get? field fields with
  | none => simp [loadTexts_of_get?_eq_none hget, problemsOf]
  | some value =>
      cases hitems : itemsOf? value with
      | none => simp [loadTexts_of_itemsOf?_eq_none hget hitems, problemsOf]
      | some items =>
          rw [problemsOf_loadTexts_of_standsFor hget (itemsOf?_eq_some_iff.mp hitems)]
          split
          · simp
          · exact pairwise_itemProblems field 0 items

lemma loadTexts_ne_error_nil : loadTexts fields field ≠ .error [] := by
  cases hget : Association.get? field fields with
  | none => simp [loadTexts_of_get?_eq_none hget]
  | some value =>
      cases hitems : itemsOf? value with
      | none => simp [loadTexts_of_itemsOf?_eq_none hget hitems]
      | some items =>
          rw [loadTexts_of_standsFor hget (itemsOf?_eq_some_iff.mp hitems)]
          split
          · simp
          · split
            · simp
            · rename_i hsome
              simpa using hsome

end Statements

/-! ## Scenarios -/

/-- **When the fields are those of a scenario.** -/
lemma ofFields_eq_ok_iff {scenario : Scenario} :
    ofFields fields = .ok scenario ↔ Describes fields scenario := by
  have hload : ofFields fields = .ok scenario
      ↔ loadText fields "name".toText = .ok scenario.name
        ∧ loadText fields Section.given.key = .ok scenario.given
        ∧ loadTexts fields Section.action.key = .ok scenario.actions
        ∧ loadTexts fields Section.outcome.key = .ok scenario.outcomes := by
    rw [ofFields]
    split
    · rename_i name given actions outcomes hname hgiven hactions houtcomes
      rw [hname, hgiven, hactions, houtcomes]
      obtain ⟨⟩ := scenario
      simp
    · rename_i hnone
      simp only [reduceCtorEq, false_iff]
      rintro ⟨hname, hgiven, hactions, houtcomes⟩
      exact hnone _ _ _ _ hname hgiven hactions houtcomes
  rw [hload, loadText_eq_ok_iff, loadText_eq_ok_iff, loadTexts_eq_ok_iff, loadTexts_eq_ok_iff]
  exact ⟨fun ⟨hname, hgiven, hactions, houtcomes⟩ => ⟨hname, hgiven, hactions, houtcomes⟩,
    fun h => ⟨h.name, h.given, h.actions, h.outcomes⟩⟩

lemma exists_eq_ok_of_problemsOf {α : Type} {result : Except (List Problem) α}
    (hne : result ≠ .error []) (h : problemsOf result = []) : ∃ found, result = .ok found := by
  cases result with
  | ok found => exact ⟨found, rfl⟩
  | error problems => exact absurd (congrArg Except.error h) hne

/-- **The problems of all fields.** -/
lemma mem_allProblems_iff :
    problem ∈ problemsOf (loadText fields "name".toText)
          ++ problemsOf (loadText fields Section.given.key)
          ++ problemsOf (loadTexts fields Section.action.key)
          ++ problemsOf (loadTexts fields Section.outcome.key)
      ↔ Violates fields problem := by
  rw [List.mem_append, List.mem_append, List.mem_append, mem_problemsOf_loadText_iff,
    mem_problemsOf_loadText_iff, mem_problemsOf_loadTexts_iff, mem_problemsOf_loadTexts_iff]
  constructor
  · obtain ⟨field, index, issue⟩ := problem
    rintro (((⟨rfl, rfl, h⟩ | ⟨rfl, rfl, h⟩) | ⟨rfl, h⟩) | ⟨rfl, h⟩)
    · exact .line (.head _) h
    · exact .line (.tail _ (.head _)) h
    · exact .statements (.head _) h
    · exact .statements (.tail _ (.head _)) h
  · intro h
    cases h with
    | line hfield h =>
        rcases List.mem_pair.mp hfield with rfl | rfl
        · exact .inl (.inl (.inl ⟨rfl, rfl, h⟩))
        · exact .inl (.inl (.inr ⟨rfl, rfl, h⟩))
    | statements hfield h =>
        rcases List.mem_pair.mp hfield with rfl | rfl
        · exact .inl (.inr ⟨rfl, h⟩)
        · exact .inr ⟨rfl, h⟩

/-- Problems of different fields stand in the order of the fields. -/
lemma Problem.Precedes.of_rank {first second : Problem} {field other : Text}
    (hrank : rank field < rank other) (hfirst : first.field = field)
    (hsecond : second.field = other) : first.Precedes second := by
  subst hfirst hsecond
  exact .inl hrank

lemma pairwise_allProblems (fields : List (Text × Json)) :
    (problemsOf (loadText fields "name".toText) ++ problemsOf (loadText fields Section.given.key)
        ++ problemsOf (loadTexts fields Section.action.key)
        ++ problemsOf (loadTexts fields Section.outcome.key)).Pairwise Problem.Precedes := by
  have hname : ∀ problem ∈ problemsOf (loadText fields "name".toText),
      problem.field = "name".toText :=
    fun problem h => (mem_problemsOf_loadText_iff.mp h).1
  have hgiven : ∀ problem ∈ problemsOf (loadText fields Section.given.key),
      problem.field = "given".toText :=
    fun problem h => (mem_problemsOf_loadText_iff.mp h).1
  have hactions : ∀ problem ∈ problemsOf (loadTexts fields Section.action.key),
      problem.field = "when".toText :=
    fun problem h => (mem_problemsOf_loadTexts_iff.mp h).1
  have houtcomes : ∀ problem ∈ problemsOf (loadTexts fields Section.outcome.key),
      problem.field = "then".toText :=
    fun problem h => (mem_problemsOf_loadTexts_iff.mp h).1
  -- one block for each field, and the blocks in the order of the fields
  refine List.pairwise_append.mpr ⟨List.pairwise_append.mpr ⟨List.pairwise_append.mpr
    ⟨pairwise_problemsOf_loadText fields _, pairwise_problemsOf_loadText fields _, ?_⟩,
    pairwise_problemsOf_loadTexts fields _, ?_⟩, pairwise_problemsOf_loadTexts fields _, ?_⟩
  · intro first hfirst second hsecond
    exact .of_rank (by decide +kernel) (hname _ hfirst) (hgiven _ hsecond)
  · intro first hfirst second hsecond
    rcases List.mem_append.mp hfirst with hfirst | hfirst
    · exact .of_rank (by decide +kernel) (hname _ hfirst) (hactions _ hsecond)
    · exact .of_rank (by decide +kernel) (hgiven _ hfirst) (hactions _ hsecond)
  · intro first hfirst second hsecond
    rcases List.mem_append.mp hfirst with hfirst | hfirst
    · rcases List.mem_append.mp hfirst with hfirst | hfirst
      · exact .of_rank (by decide +kernel) (hname _ hfirst) (houtcomes _ hsecond)
      · exact .of_rank (by decide +kernel) (hgiven _ hfirst) (houtcomes _ hsecond)
    · exact .of_rank (by decide +kernel) (hactions _ hfirst) (houtcomes _ hsecond)

/-- **What is said about fields that are not those of a scenario.** -/
lemma isDiagnosis_of_ofFields {problems : List Problem} (h : ofFields fields = .error problems) :
    IsDiagnosis fields problems := by
  rw [ofFields] at h
  split at h
  · exact absurd h (by simp)
  · rename_i hnone
    obtain rfl := Except.error.inj h
    refine ⟨?_, fun problem => mem_allProblems_iff, pairwise_allProblems fields⟩
    intro hnil
    simp only [List.append_eq_nil_iff] at hnil
    obtain ⟨⟨⟨hname, hgiven⟩, hactions⟩, houtcomes⟩ := hnil
    obtain ⟨name, hname⟩ := exists_eq_ok_of_problemsOf loadText_ne_error_nil hname
    obtain ⟨given, hgiven⟩ := exists_eq_ok_of_problemsOf loadText_ne_error_nil hgiven
    obtain ⟨actions, hactions⟩ := exists_eq_ok_of_problemsOf loadTexts_ne_error_nil hactions
    obtain ⟨outcomes, houtcomes⟩ := exists_eq_ok_of_problemsOf loadTexts_ne_error_nil houtcomes
    exact hnone name given actions outcomes hname hgiven hactions houtcomes

/-- **When a value is a scenario.** -/
lemma load_eq_ok_iff {scenario : Scenario} :
    load value = .ok scenario ↔ ∃ fields, value = .object fields ∧ Describes fields scenario := by
  cases value with
  | object fields =>
      simp only [Json.object.injEq, exists_eq_left', ← ofFields_eq_ok_iff, load]
      cases ofFields fields with
      | ok found =>
          change (.ok found : Except StructureFault Scenario) = .ok scenario ↔ _
          rw [Except.ok.injEq, Except.ok.injEq]
      | error problems => exact ⟨nofun, nofun⟩
  | _ => simp [load]

lemma load_object_eq_error {fault : StructureFault} (h : load (.object fields) = .error fault) :
    ∃ problems, fault = .invalid problems ∧ IsDiagnosis fields problems := by
  rw [load] at h
  cases hfields : ofFields fields with
  | ok scenario =>
      rw [hfields] at h
      cases h
  | error problems =>
      rw [hfields] at h
      exact ⟨problems, (Except.error.inj h).symm, isDiagnosis_of_ofFields hfields⟩

/-! ## One statement without a list -/

lemma loadTexts_put_self (key statement : Text) (fields : List (Text × Json)) :
    loadTexts (Association.put key (.string statement) fields) key
      = loadTexts (Association.put key (.array [.string statement]) fields) key := by
  simp only [loadTexts, Association.get?_put_self, itemsOf?]

lemma loadTexts_put_of_ne {key : Text} (h : field ≠ key) (value other : Json)
    (fields : List (Text × Json)) :
    loadTexts (Association.put key value fields) field
      = loadTexts (Association.put key other fields) field := by
  simp only [loadTexts, Association.get?_put_of_ne h]

lemma loadText_put_of_ne {key : Text} (h : field ≠ key) (value other : Json)
    (fields : List (Text × Json)) :
    loadText (Association.put key value fields) field
      = loadText (Association.put key other fields) field := by
  simp only [loadText, Association.get?_put_of_ne h]

/-- **A statement means the list that has only it.** -/
lemma load_put_string {key : Text} (hkey : key ∈ ["when".toText, "then".toText])
    (statement : Text) (fields : List (Text × Json)) :
    load (.object (Association.put key (.string statement) fields))
      = load (.object (Association.put key (.array [.string statement]) fields)) := by
  have hname : "name".toText ≠ key := by
    rcases List.mem_pair.mp hkey with rfl | rfl <;> decide +kernel
  have hgiven : Section.given.key ≠ key := by
    rcases List.mem_pair.mp hkey with rfl | rfl <;> decide +kernel
  have hlists : ∀ field, loadTexts (Association.put key (.string statement) fields) field
      = loadTexts (Association.put key (.array [.string statement]) fields) field := by
    intro field
    by_cases hfield : field = key
    · rw [hfield]
      exact loadTexts_put_self key statement fields
    · exact loadTexts_put_of_ne hfield _ _ fields
  simp only [load, ofFields, hlists, loadText_put_of_ne hname _ (.array [.string statement]) fields,
    loadText_put_of_ne hgiven _ (.array [.string statement]) fields]

/-! ## Lists of scenarios -/

lemma loadEach_eq_ok_iff {items : List Json} {scenarios : List Scenario} :
    loadEach items = .ok scenarios
      ↔ List.Forall₂ (fun item scenario => load item = .ok scenario) items scenarios := by
  induction items generalizing scenarios with
  | nil => simp [loadEach, eq_comm]
  | cons item items ih =>
      rw [loadEach, List.forall₂_cons_left_iff]
      cases load item with
      | error fault => simp
      | ok scenario =>
          simp only [← ih]
          cases loadEach items <;> simp [Except.map, eq_comm]

/-- **A list fails with the fault of the first item that is no scenario.** -/
lemma loadEach_eq_error_iff {items : List Json} {fault : StructureFault} :
    loadEach items = .error fault
      ↔ ∃ before item after, items = before ++ item :: after
        ∧ (∀ earlier ∈ before, ∃ scenario, load earlier = .ok scenario)
        ∧ load item = .error fault := by
  induction items with
  | nil => simp [loadEach]
  | cons first items ih =>
      rw [loadEach]
      cases hfirst : load first with
      | error found =>
          simp only [Except.error.injEq]
          constructor
          · rintro rfl
            exact ⟨[], first, items, rfl, by simp, hfirst⟩
          · rintro ⟨before, item, after, hsplit, hbefore, hitem⟩
            cases before with
            | nil =>
                obtain ⟨rfl, -⟩ := List.cons.inj hsplit
                exact Except.error.inj (hfirst.symm.trans hitem)
            | cons earlier before =>
                obtain ⟨rfl, -⟩ := List.cons.inj hsplit
                obtain ⟨scenario, hok⟩ := hbefore first (by simp)
                exact absurd (hfirst.symm.trans hok) (by simp)
      | ok scenario =>
          have hrest : (loadEach items).map (scenario :: ·) = .error fault
              ↔ loadEach items = .error fault := by
            cases loadEach items <;> simp [Except.map]
          simp only [hrest, ih]
          constructor
          · rintro ⟨before, item, after, rfl, hbefore, hitem⟩
            refine ⟨first :: before, item, after, rfl, ?_, hitem⟩
            exact List.forall_mem_cons.mpr ⟨⟨scenario, hfirst⟩, hbefore⟩
          · rintro ⟨before, item, after, hsplit, hbefore, hitem⟩
            cases before with
            | nil =>
                obtain ⟨rfl, -⟩ := List.cons.inj hsplit
                exact absurd (hfirst.symm.trans hitem) (by simp)
            | cons earlier before =>
                obtain ⟨-, rfl⟩ := List.cons.inj hsplit
                exact ⟨before, item, after, rfl, (List.forall_mem_cons.mp hbefore).2, hitem⟩

/-! ## All of it -/

/-- **Loading accepts exactly what describes a scenario, and diagnoses everything else.**
    A value is loaded exactly if it is an object whose fields describe a scenario, and then that
    scenario is the result, text by text.  Any other object fails with a message that lists all
    its problems, each once and in order, and what is no object fails as such.  A statement on its
    own means the same as a list of one, for loading and for compiling.  The statements of a
    scenario are the given one, the actions and the outcomes.  A list is loaded exactly if it is
    not empty and all its items are; otherwise the first item that is not loaded decides. -/
theorem load_accepts_or_diagnoses :
    (∀ value scenario, load value = .ok scenario
        ↔ ∃ fields, value = .object fields ∧ Describes fields scenario)
      ∧ (∀ fields fault, load (.object fields) = .error fault →
          ∃ problems, fault = .invalid problems ∧ IsDiagnosis fields problems
            ∧ fault.message = "Invalid scenario: ".toText
              ++ List.intercalate "; ".toText (problems.map Problem.message))
      ∧ (∀ value, (∀ fields, value ≠ .object fields) → load value = .error .notObject)
      ∧ (∀ key ∈ ["when".toText, "then".toText], ∀ statement fields settings,
          load (.object (Association.put key (.string statement) fields))
              = load (.object (Association.put key (.array [.string statement]) fields))
            ∧ ScenarioScript.compile settings
                (.object (Association.put key (.string statement) fields))
              = ScenarioScript.compile settings
                (.object (Association.put key (.array [.string statement]) fields)))
      ∧ (∀ scenario : Scenario,
          scenario.statements = (.given, scenario.given) :: (scenario.actions.map (.action, ·)
              ++ scenario.outcomes.map (.outcome, ·))
            ∧ scenario.statements.length = scenario.statementCount)
      ∧ (∀ items scenarios, loadAll (.array items) = .ok scenarios
        ↔ items ≠ []
          ∧ List.Forall₂ (fun item scenario => load item = .ok scenario) items scenarios)
      ∧ ∀ items fault, loadAll (.array items) = .error fault
        ↔ (items = [] ∧ fault = .noScenarios)
          ∨ ∃ before item after, items = before ++ item :: after
            ∧ (∀ earlier ∈ before, ∃ scenario, load earlier = .ok scenario)
            ∧ load item = .error fault := by
  refine ⟨fun value scenario => load_eq_ok_iff, ?_, ?_, ?_, ?_, ?_, ?_⟩
  · intro fields fault hload
    obtain ⟨problems, rfl, hdiagnosis⟩ := load_object_eq_error hload
    exact ⟨problems, rfl, hdiagnosis, rfl⟩
  · intro value hvalue
    cases value with
    | object fields => exact absurd rfl (hvalue fields)
    | _ => rfl
  · intro key hkey statement fields settings
    have hload := load_put_string hkey statement fields
    refine ⟨hload, ?_⟩
    rw [ScenarioScript.compile, ScenarioScript.compile, hload]
  · intro scenario
    exact ⟨rfl, length_statements scenario⟩
  · intro items scenarios
    cases items with
    | nil => simp [loadAll]
    | cons item items => simp [loadAll, loadEach_eq_ok_iff]
  · intro items fault
    cases items with
    | nil => simp [loadAll, eq_comm]
    | cons item items => simp [loadAll, loadEach_eq_error_iff]

/-- An object without a name, with a blank line, with two items that are no strings, and with an
    empty list. -/
def fiveFaults : List (Text × Json) :=
  [("given".toText, .string " ".toText),
    ("when".toText, .array [.integer 3, .string "<click_a>".toText, .null]),
    ("then".toText, .array [])]

def fiveProblems : List Problem :=
  [⟨"name".toText, none, .missing⟩, ⟨"given".toText, none, .blank⟩,
    ⟨"when".toText, some 0, .notString⟩, ⟨"when".toText, some 2, .notString⟩,
    ⟨"then".toText, none, .empty⟩]

/-- The case of five problems at once. -/
theorem load_diagnoses_five_faults :
    load (.object fiveFaults) = .error (.invalid fiveProblems)
      ∧ IsDiagnosis fiveFaults fiveProblems
      ∧ (StructureFault.invalid fiveProblems).message = "Invalid scenario: ".toText
        ++ List.intercalate "; ".toText
          ["name: Field required".toText, "given: Value error, must not be empty".toText,
            "when.0: Input should be a valid string".toText,
            "when.2: Input should be a valid string".toText,
            "then: Value error, must have at least one item".toText] := by
  have hload : load (.object fiveFaults) = .error (.invalid fiveProblems) := rfl
  obtain ⟨-, hdiagnosis, -⟩ := load_accepts_or_diagnoses
  obtain ⟨problems, hproblems, hdiagnosed, hmessage⟩ := hdiagnosis fiveFaults _ hload
  obtain rfl := StructureFault.invalid.inj hproblems
  have hwording : fiveProblems.map Problem.message
      = ["name: Field required".toText, "given: Value error, must not be empty".toText,
          "when.0: Input should be a valid string".toText,
          "when.2: Input should be a valid string".toText,
          "then: Value error, must have at least one item".toText] := by
    decide +kernel
  rw [hwording] at hmessage
  exact ⟨hload, hdiagnosed, hmessage⟩

end Scenario

end ScenarioScript
