import Mathlib.Tactic.Lemma
import ScenarioScript.Statement.Validation

/-!
# Which statements are accepted, and which fault the others are refused for

Validation looks for the first token that belongs to no family.  When there is none:

* `isInvalidToken_eq_false_iff` — a token is valid if some family of the registry accepts it.
* `Suggester.validate_eq_ok_iff` — a statement is accepted if all its tokens are valid.
* `Suggester.validateAll_eq_ok_iff` — a list is accepted if all its statements are.

There are three ways to ask for faults: `Suggester.check` collects them, `Suggester.validate` stops
at the first one, and `Suggester.validateAll` at the first one in a list of statements.  They differ
in when they stop, not in what they find.

* `Suggester.FirstFault` — a fault is the first one of a list, said with `check` alone.
* `Suggester.validate_eq_error_iff` and `Suggester.validate_eq_ok_iff_check` — for one statement.
* `Suggester.validateAll_eq_error_iff` and `Suggester.validateAll_eq_ok_iff_check` — for a list.
* `mapError_place_validateAll` — **where the fault is does not depend on the suggester**.
-/

namespace ScenarioScript

/-! ## Acceptance -/

lemma isInvalidToken_eq_false_iff {token : Text} :
    isInvalidToken token = false ↔ ∃ family ∈ registry, family.shape.accepts token = true := by
  rw [isInvalidToken, Option.isNone_eq_false_iff, familyOf?, List.find?_isSome]

namespace Suggester

variable (suggester : Suggester)

lemma validate_eq_ok_iff (statement : Text) :
    suggester.validate statement = .ok ()
      ↔ ∀ token ∈ tokens statement, isInvalidToken token = false := by
  have hnone : (tokens statement).find? isInvalidToken = none
      ↔ ∀ token ∈ tokens statement, isInvalidToken token = false := by
    simp [List.find?_eq_none]
  rw [← hnone, validate]
  cases (tokens statement).find? isInvalidToken with
  | none => simp
  | some token => simp

lemma validateAll_eq_ok_iff (statements : List Text) :
    suggester.validateAll statements = .ok ()
      ↔ ∀ statement ∈ statements, suggester.validate statement = .ok () := by
  induction statements with
  | nil => simp [validateAll]
  | cons statement rest ih =>
      rw [validateAll]
      cases hvalid : suggester.validate statement with
      | error fault => simp [hvalid]
      | ok _ => simp [hvalid, ih]

end Suggester

/-- Where a fault is: all of it but the suggestion. -/
def SyntaxFault.place (fault : SyntaxFault) : Text × Text :=
  (fault.statement, fault.token)

namespace Suggester

/-- **The first fault of a list**: some statement has it as its first one, and no statement in front
    of that has any. -/
def FirstFault (suggester : Suggester) (statements : List Text) (fault : SyntaxFault) : Prop :=
  ∃ before statement after, statements = before ++ statement :: after
    ∧ (∀ earlier ∈ before, suggester.check earlier = [])
    ∧ (suggester.check statement).head? = some fault

variable {suggester : Suggester} {statement : Text} {statements : List Text} {fault : SyntaxFault}

/-! ## One statement -/

lemma map_token_check (suggester : Suggester) (statement : Text) :
    (suggester.check statement).map (·.token) = invalidTokens statement := by
  rw [check, List.map_map]
  exact List.map_id _

lemma validate_eq_error_iff :
    suggester.validate statement = .error fault
      ↔ (suggester.check statement).head? = some fault := by
  have hhead : (suggester.check statement).head?
      = ((tokens statement).find? isInvalidToken).map
          fun token => ⟨statement, token, suggester.closest? statement⟩ := by
    rw [check, invalidTokens, List.head?_map, List.head?_filter]
  rw [hhead, validate]
  cases (tokens statement).find? isInvalidToken with
  | none => simp
  | some token => simp

lemma validate_eq_ok_iff_check :
    suggester.validate statement = .ok () ↔ suggester.check statement = [] := by
  rw [validate_eq_ok_iff, check, List.map_eq_nil_iff, invalidTokens, List.filter_eq_nil_iff]
  simp only [Bool.not_eq_true]

/-! ## A list of statements -/

lemma firstFault_cons_of_valid (h : suggester.check statement = []) :
    suggester.FirstFault (statement :: statements) fault
      ↔ suggester.FirstFault statements fault := by
  constructor
  · rintro ⟨before, faulty, after, hsplit, hbefore, hfault⟩
    cases before with
    | nil =>
        obtain ⟨rfl, -⟩ := List.cons_eq_cons.mp hsplit
        rw [h] at hfault
        exact absurd hfault (by simp)
    | cons earlier before =>
        obtain ⟨-, rfl⟩ := List.cons_eq_cons.mp hsplit
        exact ⟨before, faulty, after, rfl, fun s hs => hbefore s (List.mem_cons_of_mem _ hs), hfault⟩
  · rintro ⟨before, faulty, after, rfl, hbefore, hfault⟩
    exact ⟨statement :: before, faulty, after, rfl, List.forall_mem_cons.mpr ⟨h, hbefore⟩, hfault⟩

lemma firstFault_cons_of_fault {found : SyntaxFault}
    (h : (suggester.check statement).head? = some found) :
    suggester.FirstFault (statement :: statements) fault ↔ found = fault := by
  constructor
  · rintro ⟨before, faulty, after, hsplit, hbefore, hfault⟩
    cases before with
    | nil =>
        obtain ⟨rfl, -⟩ := List.cons_eq_cons.mp hsplit
        exact Option.some.inj (h.symm.trans hfault)
    | cons earlier before =>
        obtain ⟨rfl, -⟩ := List.cons_eq_cons.mp hsplit
        rw [hbefore statement (by simp)] at h
        exact absurd h (by simp)
  · rintro rfl
    exact ⟨[], statement, statements, rfl, by simp, h⟩

/-- **A list is refused for its first fault.** -/
lemma validateAll_eq_error_iff :
    suggester.validateAll statements = .error fault ↔ suggester.FirstFault statements fault := by
  induction statements with
  | nil => simp [validateAll, FirstFault]
  | cons statement rest ih =>
      rw [validateAll]
      cases hvalid : suggester.validate statement with
      | error found =>
          rw [firstFault_cons_of_fault (validate_eq_error_iff.mp hvalid)]
          simp
      | ok _ =>
          rw [firstFault_cons_of_valid (validate_eq_ok_iff_check.mp hvalid)]
          exact ih

lemma validateAll_eq_ok_iff_check :
    suggester.validateAll statements = .ok ()
      ↔ ∀ statement ∈ statements, suggester.check statement = [] := by
  rw [validateAll_eq_ok_iff]
  simp only [validate_eq_ok_iff_check]

/-! ## Two suggesters -/

/-- **What is refused, and where, does not depend on the suggester.** -/
lemma mapError_place_validateAll (first second : Suggester) (statements : List Text) :
    (first.validateAll statements).mapError SyntaxFault.place
      = (second.validateAll statements).mapError SyntaxFault.place := by
  induction statements with
  | nil => rfl
  | cons statement rest ih =>
      rw [validateAll, validateAll, validate, validate]
      cases (tokens statement).find? isInvalidToken with
      | none => exact ih
      | some token => rfl

end Suggester

end ScenarioScript
