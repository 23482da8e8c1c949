import ScenarioScript.Proofs.Statement.Faults
import ScenarioScript.Proofs.Suggestion.EditDistance

/-!
# The suggestion is the first of the nearest templates

`Suggester.closest?` makes one pass over the templates with the best suggestion so far.  It leaves
out what is too far away, and it replaces a suggestion only by one that is strictly nearer.  What
comes out depends on the threshold in one respect only: whether there is a suggestion at all.

* `Suggestion.IsFirstNearest` — the first of the nearest templates, in terms of edits; there is one
  at most (`Suggestion.IsFirstNearest.unique`), and no threshold occurs in it.
* `Suggester.Reaches` — a template is within the threshold.
* `Suggester.Best` — **the invariant of the pass**: the suggestion so far is right for the templates
  seen so far.  `Suggester.best_consider` is one step, `Suggester.best_closest?` the whole pass.
* `Suggester.suggestion_is_first_nearest` — what is suggested, under any threshold, and what the
  message of a refused statement makes of it.
-/

namespace ScenarioScript

/-! ## The first of the nearest -/

/-- **The first of the nearest templates**, with its edit distance from the statement: templates in
    front of it take more edits, and those behind it no fewer. -/
structure Suggestion.IsFirstNearest (templates : List Text) (statement : Text)
    (suggestion : Suggestion) : Prop where
  isLeast : IsLeast {n | Edits n statement suggestion.template} suggestion.distance
  isFirst : ∃ before after, templates = before ++ suggestion.template :: after
    ∧ (∀ other ∈ before, ∀ n, Edits n statement other → suggestion.distance < n)
    ∧ ∀ other ∈ after, ∀ n, Edits n statement other → suggestion.distance ≤ n

/-- A bound on all edits is one on the distance. -/
lemma forall_edits_lt_iff {statement template : Text} {m : Nat} :
    (∀ n, Edits n statement template → m < n) ↔ m < distance statement template := by
  obtain ⟨hedits, hleast⟩ := distance_isLeast statement template
  constructor
  · intro h
    exact h _ hedits
  · intro h n hn
    exact h.trans_le (hleast hn)

lemma forall_edits_le_iff {statement template : Text} {m : Nat} :
    (∀ n, Edits n statement template → m ≤ n) ↔ m ≤ distance statement template := by
  obtain ⟨hedits, hleast⟩ := distance_isLeast statement template
  constructor
  · intro h
    exact h _ hedits
  · intro h n hn
    exact h.trans (hleast hn)

namespace Suggestion.IsFirstNearest

variable {templates : List Text} {statement template : Text} {suggestion other : Suggestion}

lemma distance_eq (h : suggestion.IsFirstNearest templates statement) :
    suggestion.distance = ScenarioScript.distance statement suggestion.template :=
  h.isLeast.unique (distance_isLeast statement suggestion.template)

lemma mem (h : suggestion.IsFirstNearest templates statement) :
    suggestion.template ∈ templates := by
  obtain ⟨before, after, rfl, -, -⟩ := h.isFirst
  simp

/-- **No template is nearer.** -/
lemma distance_le (h : suggestion.IsFirstNearest templates statement)
    (hmem : template ∈ templates) :
    suggestion.distance ≤ ScenarioScript.distance statement template := by
  obtain ⟨before, after, rfl, hbefore, hafter⟩ := h.isFirst
  rcases List.mem_append.mp hmem with hmem | hmem
  · exact (forall_edits_lt_iff.mp (hbefore template hmem)).le
  · rcases List.mem_cons.mp hmem with rfl | hmem
    · exact h.distance_eq.le
    · exact forall_edits_le_iff.mp (hafter template hmem)

/-- One more template, which is not nearer, changes nothing. -/
lemma append (h : suggestion.IsFirstNearest templates statement)
    (hlast : suggestion.distance ≤ ScenarioScript.distance statement template) :
    suggestion.IsFirstNearest (templates ++ [template]) statement := by
  obtain ⟨before, after, rfl, hbefore, hafter⟩ := h.isFirst
  refine ⟨h.isLeast, before, after ++ [template], by simp, hbefore, ?_⟩
  intro other hother
  rcases List.mem_append.mp hother with hother | hother
  · exact hafter other hother
  · obtain rfl := List.mem_singleton.mp hother
    exact forall_edits_le_iff.mpr hlast

/-- One more template, which is nearer than all others, takes their place. -/
lemma last (h : ∀ earlier ∈ templates,
      ScenarioScript.distance statement template < ScenarioScript.distance statement earlier) :
    IsFirstNearest (templates ++ [template]) statement
      ⟨template, ScenarioScript.distance statement template⟩ where
  isLeast := distance_isLeast statement template
  isFirst :=
    ⟨templates, [], rfl, fun earlier hmem => forall_edits_lt_iff.mpr (h earlier hmem), by simp⟩

/-- **There is one first of the nearest templates at most.** -/
lemma unique (h : suggestion.IsFirstNearest templates statement)
    (h' : other.IsFirstNearest templates statement) : suggestion = other := by
  have hle : suggestion.distance ≤ other.distance := by
    rw [h'.distance_eq]
    exact h.distance_le h'.mem
  have hge : other.distance ≤ suggestion.distance := by
    rw [h.distance_eq]
    exact h'.distance_le h.mem
  obtain ⟨before, after, hsplit, hbefore, -⟩ := h.isFirst
  obtain ⟨before', after', hsplit', hbefore', -⟩ := h'.isFirst
  have htemplate : suggestion.template = other.template := by
    -- whichever stands in front of the other would be strictly farther away
    rcases List.append_eq_append_iff.mp (hsplit.symm.trans hsplit') with
      ⟨between, rfl, hrest⟩ | ⟨between, rfl, hrest⟩
    · cases between with
      | nil => exact (List.cons.inj hrest).1
      | cons first between =>
          obtain ⟨rfl, -⟩ := List.cons.inj hrest
          exact absurd (hbefore' _ (by simp) _ h.isLeast.1) (Nat.not_lt.mpr hle)
    · cases between with
      | nil => exact (List.cons.inj hrest).1.symm
      | cons first between =>
          obtain ⟨rfl, -⟩ := List.cons.inj hrest
          exact absurd (hbefore _ (by simp) _ h'.isLeast.1) (Nat.not_lt.mpr hge)
  obtain ⟨template, distance⟩ := suggestion
  obtain ⟨template', distance'⟩ := other
  obtain rfl : template = template' := htemplate
  obtain rfl : distance = distance' := Nat.le_antisymm hle hge
  rfl

end Suggestion.IsFirstNearest

/-! ## One pass over the templates -/

namespace Suggester

variable {suggester : Suggester} {statement template : Text} {seen : List Text}
  {best : Option Suggestion}

/-- **A template is within the threshold**: so few edits lead to it. -/
def Reaches (suggester : Suggester) (statement template : Text) : Prop :=
  ∃ n : Nat, Edits n statement template ∧ (n : Int) ≤ suggester.threshold

lemma reaches_iff :
    suggester.Reaches statement template
      ↔ (distance statement template : Int) ≤ suggester.threshold := by
  obtain ⟨hedits, hleast⟩ := distance_isLeast statement template
  constructor
  · rintro ⟨n, hn, hthreshold⟩
    exact (Int.ofNat_le.mpr (hleast hn)).trans hthreshold
  · intro h
    exact ⟨_, hedits, h⟩

/-- **The suggestion so far** is right for the templates seen so far. -/
def Best (suggester : Suggester) (statement : Text) (seen : List Text) :
    Option Suggestion → Prop
  | none => ∀ template ∈ seen, ¬ suggester.Reaches statement template
  | some suggestion =>
      suggestion.IsFirstNearest seen statement ∧ (suggestion.distance : Int) ≤ suggester.threshold

/-- A template that is too far away does not count. -/
lemma Best.append_far (h : suggester.Best statement seen best)
    (hfar : ¬ suggester.Reaches statement template) :
    suggester.Best statement (seen ++ [template]) best := by
  cases best with
  | none =>
      intro other hother
      rcases List.mem_append.mp hother with hother | hother
      · exact h other hother
      · obtain rfl := List.mem_singleton.mp hother
        exact hfar
  | some suggestion =>
      obtain ⟨hnearest, hthreshold⟩ := h
      rw [reaches_iff] at hfar
      exact ⟨hnearest.append (by omega), hthreshold⟩

/-- **One template more.** -/
lemma best_consider (h : suggester.Best statement seen best) (template : Text) :
    suggester.Best statement (seen ++ [template])
      (suggester.consider statement best template) := by
  by_cases hfar : suggester.threshold < distance statement template
  · simp only [consider, if_pos hfar]
    exact h.append_far (by rw [reaches_iff]; omega)
  · simp only [consider, if_neg hfar]
    have hreaches : (distance statement template : Int) ≤ suggester.threshold := Int.not_lt.mp hfar
    cases best with
    | none =>
        refine ⟨.last fun earlier hmem => ?_, hreaches⟩
        have hbeyond := h earlier hmem
        rw [reaches_iff] at hbeyond
        omega
    | some suggestion =>
        obtain ⟨hnearest, hthreshold⟩ := h
        by_cases hless : distance statement template < suggestion.distance
        · simp only [if_pos hless]
          exact ⟨.last fun earlier hmem => hless.trans_le (hnearest.distance_le hmem), hreaches⟩
        · simp only [if_neg hless]
          exact ⟨hnearest.append (Nat.not_lt.mp hless), hthreshold⟩

lemma best_foldl (h : suggester.Best statement seen best) (rest : List Text) :
    suggester.Best statement (seen ++ rest)
      (rest.foldl (suggester.consider statement) best) := by
  induction rest generalizing seen best with
  | nil => simpa using h
  | cons template rest ih => simpa using ih (best_consider h template)

/-- **The whole pass.** -/
lemma best_closest? (suggester : Suggester) (statement : Text) :
    suggester.Best statement suggester.templates (suggester.closest? statement) := by
  have hstart : suggester.Best statement [] none := by simp [Best]
  exact best_foldl hstart suggester.templates

lemma closest?_eq_some_iff {suggestion : Suggestion} :
    suggester.closest? statement = some suggestion
      ↔ suggestion.IsFirstNearest suggester.templates statement
        ∧ (suggestion.distance : Int) ≤ suggester.threshold := by
  have hbest := best_closest? suggester statement
  constructor
  · intro h
    rwa [h] at hbest
  · rintro ⟨hnearest, hthreshold⟩
    cases hclosest : suggester.closest? statement with
    | none =>
        rw [hclosest] at hbest
        refine absurd ?_ (hbest suggestion.template hnearest.mem)
        exact ⟨suggestion.distance, hnearest.isLeast.1, hthreshold⟩
    | some found =>
        rw [hclosest] at hbest
        rw [hbest.1.unique hnearest]

lemma closest?_eq_none_iff :
    suggester.closest? statement = none
      ↔ ∀ template ∈ suggester.templates, ¬ suggester.Reaches statement template := by
  have hbest := best_closest? suggester statement
  constructor
  · intro h
    rwa [h] at hbest
  · intro hfar
    cases hclosest : suggester.closest? statement with
    | none => rfl
    | some found =>
        rw [hclosest] at hbest
        obtain ⟨hnearest, hthreshold⟩ := hbest
        exact absurd ⟨found.distance, hnearest.isLeast.1, hthreshold⟩
          (hfar found.template hnearest.mem)

lemma exists_closest?_iff :
    (∃ suggestion, suggester.closest? statement = some suggestion)
      ↔ ∃ template ∈ suggester.templates, suggester.Reaches statement template := by
  rw [← Option.ne_none_iff_exists', ne_eq, closest?_eq_none_iff]
  simp

end Suggester

/-! ## The message of a refused statement -/

/-- **The wording that names a template.** -/
def didYouMean (statement template : Text) : Text :=
  "Invalid syntax found in statement: \"".toText ++ statement
    ++ "\". Did you mean: \"".toText ++ template ++ "\"?".toText

lemma didYouMean_inj {statement template other : Text} :
    didYouMean statement template = didYouMean statement other ↔ template = other := by
  constructor
  · intro h
    exact List.append_cancel_left (List.append_cancel_right h)
  · rintro rfl
    rfl

/-- The two wordings differ in their second word. -/
lemma SyntaxFault.message_ne_didYouMean (statement token template : Text) :
    SyntaxFault.message ⟨statement, token, none⟩ ≠ didYouMean statement template := by
  have hplain : (SyntaxFault.message ⟨statement, token, none⟩)[8]? = some (char 'p') := rfl
  have hnamed : (didYouMean statement template)[8]? = some (char 's') := rfl
  intro heq
  rw [heq, hnamed] at hplain
  exact absurd hplain (by decide)

/-- **A message names a template exactly if the fault suggests it.** -/
lemma SyntaxFault.message_eq_didYouMean_iff {fault : SyntaxFault} {template : Text} :
    fault.message = didYouMean fault.statement template
      ↔ ∃ suggestion, fault.suggestion = some suggestion ∧ suggestion.template = template := by
  obtain ⟨statement, token, suggestion⟩ := fault
  cases suggestion with
  | none =>
      have hne := message_ne_didYouMean statement token template
      simpa using hne
  | some found =>
      have hmessage : SyntaxFault.message ⟨statement, token, some found⟩
          = didYouMean statement found.template := rfl
      rw [hmessage, didYouMean_inj]
      simp

/-- **Which template the message of a refused statement names.** -/
lemma Suggester.message_of_validate {suggester : Suggester} {statement : Text}
    {fault : SyntaxFault} (h : suggester.validate statement = .error fault) (template : Text) :
    fault.message = didYouMean statement template
      ↔ ∃ suggestion, suggester.closest? statement = some suggestion
        ∧ suggestion.template = template := by
  rw [Suggester.validate] at h
  split at h
  · exact absurd h (by simp)
  · obtain rfl := Except.error.inj h
    exact SyntaxFault.message_eq_didYouMean_iff

/-- **The suggestion is the first of the nearest templates**, whatever the templates and the
    threshold are.  There is none exactly if no template is within the threshold; otherwise it is a
    template with its edit distance, the least of all, and the first one with this distance.  So a
    greater threshold gives the same suggestion where there was one.  The message of a refused
    statement names a template exactly if one is within the threshold, and then it names this one:
    the token at fault does not matter. -/
theorem Suggester.suggestion_is_first_nearest (suggester : Suggester) (statement : Text) :
    (suggester.closest? statement = none
        ↔ ∀ template ∈ suggester.templates, ∀ n : Nat, Edits n statement template →
            suggester.threshold < n)
      ∧ (∀ suggestion, suggester.closest? statement = some suggestion
        ↔ suggestion.IsFirstNearest suggester.templates statement
          ∧ (suggestion.distance : Int) ≤ suggester.threshold)
      ∧ (∀ suggestion threshold, suggester.threshold ≤ threshold →
          suggester.closest? statement = some suggestion →
            { suggester with threshold }.closest? statement = some suggestion)
      ∧ ∀ fault, suggester.validate statement = .error fault →
          ((∃ template, fault.message = didYouMean statement template)
            ↔ ∃ template ∈ suggester.templates, suggester.Reaches statement template)
          ∧ ∀ template, fault.message = didYouMean statement template
            ↔ ∃ distance,
              Suggestion.IsFirstNearest suggester.templates statement ⟨template, distance⟩
              ∧ (distance : Int) ≤ suggester.threshold := by
  refine ⟨?_, fun suggestion => closest?_eq_some_iff, ?_, ?_⟩
  · simp only [closest?_eq_none_iff, Reaches, not_exists, not_and, Int.not_le]
  · intro suggestion threshold hle hclosest
    obtain ⟨hnearest, hthreshold⟩ := closest?_eq_some_iff.mp hclosest
    exact closest?_eq_some_iff.mpr ⟨hnearest, hthreshold.trans hle⟩
  · intro fault hfault
    refine ⟨?_, fun template => ?_⟩
    · rw [← exists_closest?_iff]
      simp only [message_of_validate hfault]
      exact ⟨fun ⟨_, suggestion, h, _⟩ => ⟨suggestion, h⟩, fun ⟨_, h⟩ => ⟨_, _, h, rfl⟩⟩
    · rw [message_of_validate hfault]
      constructor
      · rintro ⟨suggestion, hclosest, rfl⟩
        exact ⟨suggestion.distance, closest?_eq_some_iff.mp hclosest⟩
      · rintro ⟨distance, hnearest⟩
        exact ⟨_, closest?_eq_some_iff.mpr hnearest, rfl⟩

/-- Two templates that are equally near to `<abx>`, just within the threshold. -/
def twoNearest : Suggester :=
  { threshold := 1, templates := ["<aby>>".toText, "<abc>".toText, "<abd>".toText] }

/-- The case of a tie at the threshold: the first of the two is named, and a greater threshold,
    which admits a third template in front, changes nothing. -/
theorem suggestion_is_first_nearest_tie :
    twoNearest.closest? "<abx>".toText = some ⟨"<abc>".toText, 1⟩
      ∧ Suggestion.IsFirstNearest twoNearest.templates "<abx>".toText ⟨"<abc>".toText, 1⟩
      ∧ { twoNearest with threshold := 2 }.closest? "<abx>".toText = some ⟨"<abc>".toText, 1⟩
      ∧ ∃ fault, twoNearest.validate "<abx>".toText = .error fault
        ∧ fault.message = didYouMean "<abx>".toText "<abc>".toText := by
  obtain ⟨-, hclosest, hraise, hmessage⟩ :=
    twoNearest.suggestion_is_first_nearest "<abx>".toText
  have hfound : twoNearest.closest? "<abx>".toText = some ⟨"<abc>".toText, 1⟩ := by decide +kernel
  have hnearest := ((hclosest _).mp hfound).1
  have hfault : twoNearest.validate "<abx>".toText
      = .error ⟨"<abx>".toText, "<abx>".toText, twoNearest.closest? "<abx>".toText⟩ := by
    have htoken : (tokens "<abx>".toText).find? isInvalidToken = some "<abx>".toText := by
      decide +kernel
    rw [Suggester.validate, htoken]
  refine ⟨hfound, hnearest, hraise _ 2 (by decide) hfound, _, hfault, ?_⟩
  exact ((hmessage _ hfault).2 _).mpr ⟨1, hnearest, by decide⟩

end ScenarioScript
