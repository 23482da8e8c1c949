import ScenarioScript.Proofs.Placeholder.Templates
import ScenarioScript.Proofs.Script.Lexing
import ScenarioScript.Proofs.Statement.Rewriting

/-!
# Attribute guards that other guards take

The guard `S has A attribute with value V` is tried after seven others, and the slots of each of
them take any text.  So what is written as a value can be read as part of another guard.

* `AttributeGuard.IsUnambiguous` — **the values for which this does not happen**.
* Selector and attribute are single words, so an argument has six known words in front of those of
  the value.  Whoever takes it differently finds its own words behind them:
  `AttributeGuard.infix_of_style`, `AttributeGuard.suffix_of_argument_eq`, and
  `AttributeGuard.eq_or_infix_of_attribute` for the form itself.
* Conversely, what stands inside the value is taken: by the CSS guard
  (`AttributeGuard.exists_captures?_of_infix`), or by the greedy slot of the attribute
  (`AttributeGuard.captures?_ne_of_infix`).
* `AttributeGuard.render?_eq_assertion_iff` — the code tells who took the argument, and how.
* `AttributeGuard.attribute_guard_resolves_iff` — the result, and
  `AttributeGuard.attribute_guard_taken_by_style` a guard that becomes another one.
-/

namespace ScenarioScript

namespace AttributeGuard

/-- **The form of attribute guards.** -/
def form : Form :=
  (Family.ofTag .guard).forms.get ⟨7, by decide⟩

/-- **The argument of an attribute guard.** -/
def argument (selector property value : Text) : Text :=
  selector ++ " has ".toText ++ property ++ " attribute with value ".toText ++ value

/-- **The placeholder of an attribute guard.** -/
def statement (selector property value : Text) : Text :=
  "<if_".toText ++ argument selector property value ++ [char '>']

/-- **The assertion that an attribute guard stands for.** -/
def assertion (selector property value : Text) : Text :=
  "cy.get(".toText ++ Literal.write selector ++ ").should('have.attr', ".toText
    ++ Literal.write property ++ ", ".toText ++ Literal.write value ++ [char ')']

/-- **How the guards about the state of an element end.** -/
def endings : List Text :=
  [" exists".toText, " does not exist".toText, " is visible".toText, " is hidden".toText,
    " is enabled".toText, " is disabled".toText]

/-- **A value that leaves no doubt.** With a blank in front, it does not end like a guard about the
    state of an element, and before its last character it has neither the middle of a CSS guard nor
    that of another attribute guard. -/
structure IsUnambiguous (value : Text) : Prop where
  no_ending : ∀ ending ∈ endings, ¬ ending <:+ char ' ' :: value
  no_style : ¬ " as ".toText <:+: char ' ' :: value.dropLast
  no_attribute : ¬ " attribute with value ".toText <:+: char ' ' :: value.dropLast

instance (value : Text) : Decidable (IsUnambiguous value) :=
  decidable_of_iff ((∀ ending ∈ endings, ¬ ending <:+ char ' ' :: value)
      ∧ ¬ " as ".toText <:+: char ' ' :: value.dropLast
      ∧ ¬ " attribute with value ".toText <:+: char ' ' :: value.dropLast)
    ⟨fun ⟨h, h₁, h₂⟩ => ⟨h, h₁, h₂⟩, fun ⟨h, h₁, h₂⟩ => ⟨h, h₁, h₂⟩⟩

/-! ## Guards with a mark in the middle -/

/-- **What CSS guards and attribute guards look like**: a selector, a property and a value, with
    `mark` in front of the value. -/
def marked (mark : Text) : Phrase :=
  ⟨[], [⟨" has ".toText⟩, ⟨mark⟩, ⟨[]⟩]⟩

def write (mark selector property value : Text) : Text :=
  selector ++ " has ".toText ++ property ++ mark ++ value

lemma write?_marked (mark selector property value : Text) :
    (marked mark).write? [selector, property, value]
      = some (write mark selector property value) := by
  simp [Phrase.write?, marked, Phrase.writeSlots?, write]

lemma exists_captures?_write (mark : Text) {selector property value : Text}
    (hselector : Phrase.IsGroup selector) (hproperty : Phrase.IsGroup property)
    (hvalue : Phrase.IsGroup value) :
    ∃ groups, (marked mark).captures? (write mark selector property value) = some groups := by
  refine Phrase.exists_captures?_of_write? ?_ (write?_marked mark selector property value)
  intro group hgroup
  simp only [List.mem_cons, List.not_mem_nil, or_false] at hgroup
  rcases hgroup with rfl | rfl | rfl
  · exact hselector
  · exact hproperty
  · exact hvalue

/-- The words of a mark stand between those of the property and those of the value. -/
lemma words_write (marks : List Text) (hmarks : ∀ word ∈ marks, char ' ' ∉ word)
    (selector property value : Text) :
    Text.words (write (Text.behind marks ++ [char ' ']) selector property value)
      = Text.words selector ++ "has".toText :: Text.words property ++ marks
        ++ Text.words value := by
  have heq : write (Text.behind marks ++ [char ' ']) selector property value
      = (selector ++ Text.behind ["has".toText]) ++ char ' ' :: ((property ++ Text.behind marks)
        ++ char ' ' :: value) := by
    simp [write, Text.behind, String.toText, Text.ofChars]
  rw [heq, Text.words_append_blank, Text.words_append_blank,
    Text.words_append_behind (by decide), Text.words_append_behind hmarks]
  simp

/-- A word that is none of the later words in front of the value is a word of the value. -/
lemma exists_words_eq {fixed words front back : List Text} {word : Text} {skipped : Nat}
    (hlength : skipped ≤ front.length) (hword : word ∉ fixed.drop skipped)
    (h : front ++ word :: back = fixed ++ words) : ∃ rest, words = rest ++ word :: back := by
  rcases List.append_eq_append_iff.mp h with ⟨between, rfl, heq⟩ | ⟨between, rfl, heq⟩
  · cases between with
    | nil => exact ⟨[], by simpa using heq.symm⟩
    | cons first between =>
        obtain ⟨rfl, -⟩ := List.cons.inj heq
        refine absurd ?_ hword
        rw [List.drop_append_of_le_length hlength]
        simp
  · exact ⟨between, heq⟩

/-- Words inside a value, with something behind them, are found in its text. -/
lemma infix_of_words_eq {value group : Text} (front marks : List Text) (hgroup : group ≠ [])
    (h : Text.words value = front ++ (marks ++ Text.words group)) :
    Text.behind marks ++ [char ' '] <:+: char ' ' :: value.dropLast := by
  have htext : char ' ' :: value = Text.behind front ++ Text.behind marks ++ char ' ' :: group := by
    rw [← Text.behind_words, h, ← Text.behind_words]
    simp [Text.behind]
  have hvalue : value ≠ [] := by
    rintro rfl
    have hlength := congrArg List.length htext
    have hpositive := List.length_pos_iff.mpr hgroup
    simp only [List.length_append, List.length_cons, List.length_nil] at hlength
    omega
  refine ⟨Text.behind front, group.dropLast, ?_⟩
  have hlast := congrArg List.dropLast htext
  rw [List.dropLast_cons_of_ne_nil hvalue, List.dropLast_append_of_ne_nil (by simp),
    List.dropLast_cons_of_ne_nil hgroup] at hlast
  rw [hlast]
  simp

/-! ## What the guards take -/

section Taken

variable {selector property value : Text}

/-- The words between the attribute and the value. -/
def markWords : List Text :=
  ["attribute".toText, "with".toText, "value".toText]

/-- The words in front of the value. -/
def leadWords (selector property : Text) : List Text :=
  selector :: "has".toText :: property :: markWords

lemma words_argument (hselector : char ' ' ∉ selector) (hproperty : char ' ' ∉ property)
    (value : Text) :
    Text.words (argument selector property value)
      = leadWords selector property ++ Text.words value := by
  have hwords := words_write markWords (by decide) selector property value
  rw [Text.words_of_free hselector, Text.words_of_free hproperty] at hwords
  exact hwords

/-- **The words of an argument, read twice**: as they were written, and as a guard took them. -/
lemma exists_words_of_captures? (hselector : char ' ' ∉ selector) (hproperty : char ' ' ∉ property)
    {marks : List Text} (hmarks : ∀ word ∈ marks, char ' ' ∉ word) {groups : List Text}
    (h : (marked (Text.behind marks ++ [char ' '])).captures? (argument selector property value)
      = some groups) :
    ∃ first second third, groups = [first, second, third] ∧ third ≠ []
      ∧ Text.words first ++ "has".toText :: Text.words second ++ (marks ++ Text.words third)
        = leadWords selector property ++ Text.words value := by
  obtain ⟨hwrite, hlength, hgroups⟩ := Phrase.write?_of_captures? h
  obtain ⟨first, second, third, rfl⟩ := List.length_eq_three.mp hlength
  refine ⟨first, second, third, rfl, (hgroups third (by simp)).1, ?_⟩
  rw [write?_marked, Option.some.injEq] at hwrite
  rw [← words_argument hselector hproperty, ← hwrite, words_write marks hmarks]
  simp

/-- A selector and a property have at least one word each. -/
lemma three_le_length_words (first second : Text) :
    3 ≤ (Text.words first ++ "has".toText :: Text.words second).length := by
  have hfirst := List.length_pos_iff.mpr (Text.words_ne_nil first)
  have hsecond := List.length_pos_iff.mpr (Text.words_ne_nil second)
  rw [List.length_append, List.length_cons]
  omega

/-- **A CSS guard takes the argument** only at an ` as ` of the value. -/
lemma infix_of_style (hselector : char ' ' ∉ selector) (hproperty : char ' ' ∉ property)
    {groups : List Text}
    (h : (marked " as ".toText).captures? (argument selector property value) = some groups) :
    " as ".toText <:+: char ' ' :: value.dropLast := by
  have hmarks : ∀ word ∈ ["as".toText], char ' ' ∉ word := by decide
  obtain ⟨first, second, third, -, hthird, hwords⟩ :=
    exists_words_of_captures? hselector hproperty hmarks h
  obtain ⟨front, hfront⟩ := exists_words_eq (three_le_length_words first second)
    (by simp [leadWords, markWords]) hwords
  exact infix_of_words_eq front ["as".toText] hthird hfront

/-- **An attribute guard takes its own values**, unless the value has the words of the mark. -/
lemma eq_or_infix_of_attribute (hselector : char ' ' ∉ selector) (hproperty : char ' ' ∉ property)
    {groups : List Text}
    (h : (marked " attribute with value ".toText).captures? (argument selector property value)
      = some groups) :
    groups = [selector, property, value]
      ∨ " attribute with value ".toText <:+: char ' ' :: value.dropLast := by
  have hmarks : ∀ word ∈ markWords, char ' ' ∉ word := by decide
  obtain ⟨first, second, third, rfl, hthird, hwords⟩ :=
    exists_words_of_captures? hselector hproperty hmarks h
  rcases Nat.eq_or_lt_of_le (three_le_length_words first second) with hthree | hmore
  · -- selector and attribute have taken one word each
    left
    have hfirst := List.length_pos_iff.mpr (Text.words_ne_nil first)
    have hsecond := List.length_pos_iff.mpr (Text.words_ne_nil second)
    have hown : leadWords selector property ++ Text.words value
        = ([selector] ++ "has".toText :: [property]) ++ (markWords ++ Text.words value) := rfl
    obtain ⟨hsplit, hbehind⟩ := List.append_inj (hwords.trans hown) hthree.symm
    have hlast : char ' ' :: third = char ' ' :: value := by
      rw [← Text.behind_words, ← Text.behind_words, List.append_cancel_left hbehind]
    have hone : (Text.words first).length = [selector].length := by
      rw [List.length_append, List.length_cons] at hthree
      rw [List.length_singleton]
      omega
    obtain ⟨hselector', hproperty'⟩ := List.append_inj hsplit hone
    rw [Text.eq_of_words_eq hselector', Text.eq_of_words_eq (List.cons.inj hproperty').2,
      (List.cons.inj hlast).2]
  · right
    obtain ⟨front, hfront⟩ := exists_words_eq hmore (by simp [leadWords, markWords]) hwords
    exact infix_of_words_eq front markWords hthird hfront

/-! ### Guards about the state of an element -/

/-- What stands in front of the value, without the last blank. -/
def lead (selector property : Text) : Text :=
  selector ++ " has ".toText ++ property ++ " attribute with value".toText

lemma argument_eq (selector property value : Text) :
    argument selector property value = lead selector property ++ char ' ' :: value := by
  simp [argument, lead, String.toText, Text.ofChars]

/-- **A guard about a state takes the argument** only if the value ends like one.  An ending cannot
    begin further in front, because no blank of it follows the last letter of `value`. -/
lemma suffix_of_argument_eq {ending group : Text} (hending : ending ∈ endings)
    (h : argument selector property value = group ++ ending) : ending <:+ char ' ' :: value := by
  have hsplit : ∀ ending ∈ endings, ∀ n < ending.length,
      (ending.take n).getLast? = some (char 'e') → ending[n]? ≠ some (char ' ') := by decide
  rw [argument_eq] at h
  rcases List.append_eq_append_iff.mp h with ⟨front, -, heq⟩ | ⟨front, hlead, rfl⟩
  · exact ⟨front, heq.symm⟩
  · cases front using List.reverseRecOn with
    | nil => exact List.suffix_refl _
    | append_singleton front c =>
        have hlast : lead selector property
            = (selector ++ " has ".toText ++ property ++ " attribute with valu".toText)
              ++ [char 'e'] := by
          simp [lead, String.toText, Text.ofChars]
        rw [hlast, ← List.append_assoc] at hlead
        obtain rfl : char 'e' = c := List.singleton_inj.mp (List.append_inj' hlead rfl).2
        refine absurd ?_ (hsplit _ hending (front ++ [char 'e']).length (by simp) ?_)
        · simp
        · rw [List.take_left' rfl, List.getLast?_concat]

/-! ### Marks inside the value -/

/-- A mark inside the value is another way to write the argument, with a longer attribute. -/
lemma exists_write_of_infix (selector : Text) (hproperty : IsWord property) (hvalue : value ≠ [])
    (hline : char '\n' ∉ value) {mark : Text} (h : mark <:+: char ' ' :: value.dropLast) :
    ∃ longer back, Phrase.IsGroup longer ∧ property.length < longer.length ∧ Phrase.IsGroup back
      ∧ argument selector property value = write mark selector longer back := by
  obtain ⟨front, back, heq⟩ := h
  have htext : front ++ mark ++ (back ++ [value.getLast hvalue]) = char ' ' :: value := by
    rw [← List.append_assoc, heq, List.cons_append, List.dropLast_concat_getLast]
  have hlines : char '\n' ∉ front ++ mark ++ (back ++ [value.getLast hvalue]) := by
    rw [htext]
    simp [hline]
  rw [List.mem_append, List.mem_append, not_or, not_or] at hlines
  refine ⟨property ++ " attribute with value".toText ++ front, back ++ [value.getLast hvalue],
    ⟨by simp, by simp [hproperty.no_line, hlines.1.1]⟩, ?_, ⟨by simp, hlines.2⟩, ?_⟩
  · have hpositive : 0 < " attribute with value".toText.length := by decide
    simp only [List.length_append]
    omega
  · rw [argument_eq, ← htext]
    simp [lead, write]

/-- **The slots of a guard can take the argument** at any of its marks inside the value. -/
lemma exists_captures?_of_infix (hselector : IsWord selector) (hproperty : IsWord property)
    (hvalue : value ≠ []) (hline : char '\n' ∉ value) {mark : Text}
    (h : mark <:+: char ' ' :: value.dropLast) :
    ∃ groups, (marked mark).captures? (argument selector property value) = some groups := by
  obtain ⟨longer, back, hlonger, -, hback, heq⟩ :=
    exists_write_of_infix selector hproperty hvalue hline h
  rw [heq]
  exact exists_captures?_write mark ⟨hselector.ne_nil, hselector.no_line⟩ hlonger hback

/-- **Greed.** Another mark inside the value lets the attribute go on up to it. -/
lemma captures?_ne_of_infix (hproperty : IsWord property) (hvalue : value ≠ [])
    (hline : char '\n' ∉ value) {mark : Text} (h : mark <:+: char ' ' :: value.dropLast) :
    (marked mark).captures? (argument selector property value)
      ≠ some [selector, property, value] := by
  intro hcaptures
  obtain ⟨longer, back, hlonger, hlength, hback, heq⟩ :=
    exists_write_of_infix selector hproperty hvalue hline h
  rw [heq] at hcaptures
  obtain ⟨rest, hrest, hslots⟩ := Phrase.exists_of_slotCaptures?_cons hcaptures
  have hwritten : rest = longer ++ (mark ++ back) := by
    simpa [write] using hrest.symm
  obtain ⟨found, hfound⟩ : ∃ found, Phrase.slotCaptures? [⟨[]⟩] back = some found := by
    have hwrite : Phrase.writeSlots? [⟨[]⟩] [back] = some back := by simp [Phrase.writeSlots?]
    exact Phrase.exists_slotCaptures? (by simpa using hback) hwrite
  rw [hwritten] at hslots
  have hgreed := Phrase.length_le_of_slotCaptures? hlonger hfound hslots
  omega

end Taken

/-! ## The first guard that accepts -/

/-- **The guards that are tried earlier**, as phrases. -/
def earlier : List Phrase :=
  endings.map (fun ending => ⟨[], [⟨ending⟩]⟩) ++ [marked " as ".toText]

lemma phrases_take_forms :
    ((Family.ofTag .guard).forms.take 7).map Form.phrase = earlier := rfl

lemma form?_eq_some_iff {argument : Text} (h : form.accepts argument = true) :
    (Family.ofTag .guard).form? argument = some form
      ↔ ∀ phrase ∈ earlier, phrase.captures? argument = none := by
  have hforms : (Family.ofTag .guard).forms
      = (Family.ofTag .guard).forms.take 7 ++ form :: (Family.ofTag .guard).forms.drop 8 := rfl
  have hfound : (form :: (Family.ofTag .guard).forms.drop 8).find? (·.accepts argument)
      = some form := List.find?_cons_of_pos h
  rw [Family.form?, hforms, List.find?_append, hfound, ← phrases_take_forms, List.forall_mem_map]
  cases hfirst : ((Family.ofTag .guard).forms.take 7).find? (·.accepts argument) with
  | none =>
      rw [List.find?_eq_none] at hfirst
      simp only [Option.none_or, true_iff]
      intro other hother
      simpa [Form.accepts] using hfirst other hother
  | some other =>
      have hmem := List.mem_of_find?_eq_some hfirst
      have haccepts : other.accepts argument = true := by simpa using List.find?_some hfirst
      simp only [Option.some_or, Option.some.injEq]
      constructor
      · rintro rfl
        have hphrase := List.mem_map_of_mem (f := Form.phrase) hmem
        rw [phrases_take_forms] at hphrase
        exact absurd hphrase (by decide)
      · intro hnone
        rw [Form.accepts, hnone other hmem] at haccepts
        exact absurd haccepts (by simp)

section First

variable {selector property value : Text}

lemma exists_captures? (hselector : IsWord selector) (hproperty : IsWord property)
    (hvalue : value ≠ []) (hline : char '\n' ∉ value) :
    ∃ groups, form.phrase.captures? (argument selector property value) = some groups :=
  exists_captures?_write " attribute with value ".toText
    ⟨hselector.ne_nil, hselector.no_line⟩ ⟨hproperty.ne_nil, hproperty.no_line⟩ ⟨hvalue, hline⟩

/-- **No earlier guard takes the argument, and the slots take the values**, exactly if the value
    leaves no doubt. -/
lemma untaken_iff (hselector : IsWord selector) (hproperty : IsWord property)
    (hvalue : value ≠ []) (hline : char '\n' ∉ value) :
    ((∀ phrase ∈ earlier, phrase.captures? (argument selector property value) = none)
        ∧ form.phrase.captures? (argument selector property value)
          = some [selector, property, value])
      ↔ IsUnambiguous value := by
  constructor
  · rintro ⟨hnone, hcaptures⟩
    refine ⟨?_, ?_, ?_⟩
    · rintro ending hending ⟨front, hfront⟩
      have hwrite : Phrase.write? ⟨[], [⟨ending⟩]⟩ [lead selector property ++ front]
          = some (argument selector property value) := by
        rw [argument_eq, ← hfront]
        simp [Phrase.write?, Phrase.writeSlots?]
      have hgroup : Phrase.IsGroup (lead selector property ++ front) := by
        have hlines : char '\n' ∉ front ++ ending := by
          rw [hfront]
          simp [hline]
        simp only [List.mem_append, not_or] at hlines
        exact ⟨by simp [lead], by simp [lead, hselector.no_line, hproperty.no_line, hlines.1]⟩
      obtain ⟨groups, hgroups⟩ := Phrase.exists_captures?_of_write? (by simpa using hgroup) hwrite
      have hearlier : (⟨[], [⟨ending⟩]⟩ : Phrase) ∈ earlier := by simp [earlier, hending]
      rw [hnone _ hearlier] at hgroups
      exact absurd hgroups (by simp)
    · intro hinside
      obtain ⟨groups, hgroups⟩ :=
        exists_captures?_of_infix hselector hproperty hvalue hline hinside
      rw [hnone _ (by simp [earlier])] at hgroups
      exact absurd hgroups (by simp)
    · intro hinside
      exact captures?_ne_of_infix hproperty hvalue hline hinside hcaptures
  · intro h
    refine ⟨?_, ?_⟩
    · intro phrase hphrase
      rw [Option.eq_none_iff_forall_ne_some]
      intro groups hgroups
      simp only [earlier, List.mem_append, List.mem_map, List.mem_singleton] at hphrase
      rcases hphrase with ⟨ending, hending, rfl⟩ | rfl
      · obtain ⟨hwrite, hlength, -⟩ := Phrase.write?_of_captures? hgroups
        obtain ⟨group, rfl⟩ := List.length_eq_one_iff.mp hlength
        have heq : argument selector property value = group ++ ending := by
          simpa [Phrase.write?, Phrase.writeSlots?] using hwrite.symm
        exact h.no_ending ending hending (suffix_of_argument_eq hending heq)
      · exact h.no_style (infix_of_style hselector.no_blank hproperty.no_blank hgroups)
    · obtain ⟨groups, hgroups⟩ := exists_captures? hselector hproperty hvalue hline
      rcases eq_or_infix_of_attribute hselector.no_blank hproperty.no_blank hgroups
        with rfl | hinside
      · exact hgroups
      · exact absurd hinside h.no_attribute

/-! ## The code -/

/-- What the guards assert, in the order of the forms. -/
def properties : List Text :=
  ["exist".toText, "not.exist".toText, "be.visible".toText, "not.be.visible".toText,
    "not.be.disabled".toText, "be.disabled".toText, "have.css".toText, "have.attr".toText,
    "have.class".toText]

/-- **The second literal of a guard tells its form.** -/
lemma eq_form_of_property {other : Form} (h : other ∈ (Family.ofTag .guard).forms)
    {values : List Text}
    (hproperty : (other.code.wordings.map (Wording.fill values))[1]? = some "have.attr".toText) :
    other = form := by
  have hall : ∀ i : Fin 9, ((Family.ofTag .guard).forms.get i).code.wordings[1]?
      = properties[i.val]?.map .fixed := by decide
  have hindex : ∀ i : Fin 9, properties[i.val]? = some "have.attr".toText → i = 7 := by decide
  obtain ⟨i, rfl⟩ := List.get_of_mem h
  rw [List.getElem?_map, hall i, Option.map_map] at hproperty
  rw [hindex i (by simpa [Function.comp_def, Wording.fill] using hproperty)]
  rfl

lemma render_form (selector property value : Text) :
    form.code.render [selector, property, value] = assertion selector property value := by
  have hcode : form.code = [.code "cy.get(".toText, .literal (.only 0), .code ")".toText,
      .code ".should(".toText, .literal (.fixed "have.attr".toText), .code ", ".toText,
      .literal (.only 1), .code ", ".toText, .literal (.only 2), .code ")".toText] := rfl
  rw [hcode]
  simp only [Snippet.render, List.flatMap_cons, List.flatMap_nil, Piece.render, Wording.only,
    Wording.fill, List.getD_cons_zero, List.getD_cons_succ, List.append_nil, List.nil_append]
  unfold assertion
  simp only [List.append_assoc]
  rfl

/-- **The literals of the assertion** are those of its form, in this order. -/
lemma literals_form (values : List Text) : form.code.wordings.map (Wording.fill values)
    = [values.getD 0 [], "have.attr".toText, values.getD 1 [], values.getD 2 []] := by
  have hwordings : form.code.wordings
      = [.only 0, .fixed "have.attr".toText, .only 1, .only 2] := rfl
  simp [hwordings, Wording.only, Wording.fill]

/-- **Only the attribute guard gives the assertion**, and only if its slots take the values. -/
lemma render?_eq_assertion_iff (selector property value text : Text) :
    (Family.ofTag .guard).render? text = some (assertion selector property value)
      ↔ (Family.ofTag .guard).form? text = some form
        ∧ form.phrase.captures? text = some [selector, property, value] := by
  constructor
  · intro h
    obtain ⟨other, hother, hcode⟩ := Option.bind_eq_some_iff.mp h
    obtain ⟨groups, hgroups, hrender⟩ := Option.map_eq_some_iff.mp hcode
    have hmem := List.mem_of_find?_eq_some hother
    have hread := other.code.read?_render (code_of_mem_forms .guard other hmem).1 groups
    rw [hrender, ← render_form, form.code.read?_render (by decide), Option.some.injEq,
      Lexed.mk.injEq] at hread
    have hliterals := hread.2
    rw [literals_form] at hliterals
    obtain rfl := eq_form_of_property hmem (by rw [← hliterals]; rfl)
    refine ⟨hother, ?_⟩
    obtain ⟨first, second, third, rfl⟩ :=
      List.length_eq_three.mp (Phrase.length_captures hgroups)
    rw [literals_form] at hliterals
    simp only [List.getD_cons_zero, List.getD_cons_succ, List.cons.injEq, true_and, and_true]
      at hliterals
    obtain ⟨rfl, rfl, rfl⟩ := hliterals
    exact hgroups
  · rintro ⟨hform, hcaptures⟩
    rw [Family.render?, hform, Option.bind_some, Form.render?, hcaptures, Option.map_some,
      render_form]

end First

/-- **Which attribute guards are resolved as such.**  For a selector and an attribute of one word
    each, the placeholder resolves to the assertion about this attribute and this value exactly if
    the value leaves no doubt, and exactly then the form of attribute guards is the first to accept
    the argument, and its slots take selector, attribute and value. -/
theorem attribute_guard_resolves_iff (selector property value : Text) (hselector : IsWord selector)
    (hproperty : IsWord property) (hvalue : value ≠ []) (hline : char '\n' ∉ value)
    (hopening : char '<' ∉ value) :
    (resolve (statement selector property value) = ⟨assertion selector property value, []⟩
        ↔ IsUnambiguous value)
      ∧ ((Family.ofTag .guard).form? (argument selector property value) = some form
          ∧ form.phrase.captures? (argument selector property value)
            = some [selector, property, value]
        ↔ IsUnambiguous value) := by
  have hform : form ∈ (Family.ofTag .guard).forms := List.get_mem _ _
  obtain ⟨groups, hgroups⟩ := exists_captures? hselector hproperty hvalue hline
  have haccepts : form.accepts (argument selector property value) = true := by
    rw [Form.accepts, hgroups]
    rfl
  have hflat : char '<' ∉ argument selector property value := by
    simp [argument, hselector.no_opening, hproperty.no_opening, hopening]
  have hfirst : (Family.ofTag .guard).form? (argument selector property value) = some form
      ∧ form.phrase.captures? (argument selector property value) = some [selector, property, value]
        ↔ IsUnambiguous value := by
    rw [form?_eq_some_iff haccepts, untaken_iff hselector hproperty hvalue hline]
  refine ⟨?_, hfirst⟩
  obtain ⟨code, hcode⟩ : ∃ code,
      (Family.ofTag .guard).render? (argument selector property value) = some code := by
    cases hnone : (Family.ofTag .guard).render? (argument selector property value) with
    | none =>
        have hrefused := Family.accepts_eq_false_of_render? hnone hform
        rw [haccepts] at hrefused
        exact absurd hrefused (by simp)
    | some code => exact ⟨code, rfl⟩
  let placeholder : Placeholder :=
    ⟨.guard, argument selector property value, admits_of_captures? hform hgroups, hflat⟩
  have hresolve : resolve (statement selector property value) = ⟨code, []⟩ :=
    Placeholder.resolve_text (p := placeholder) hcode
  rw [← hfirst, ← render?_eq_assertion_iff, hresolve, hcode]
  simp

/-- The case of a value with several words, some of them from other guards. -/
theorem attribute_guard_resolves_several_words :
    resolve "<if_#a has title attribute with value has class exists as>".toText
      = ⟨"cy.get('#a').should('have.attr', 'title', 'has class exists as')".toText, []⟩ := by
  have hstatement : statement "#a".toText "title".toText "has class exists as".toText
      = "<if_#a has title attribute with value has class exists as>".toText := by decide
  have hassertion : assertion "#a".toText "title".toText "has class exists as".toText
      = "cy.get('#a').should('have.attr', 'title', 'has class exists as')".toText := by decide
  rw [← hstatement, ← hassertion]
  exact (attribute_guard_resolves_iff "#a".toText "title".toText "has class exists as".toText
    (by decide) (by decide) (by decide) (by decide) (by decide)).1.mpr (by decide)

/-- **An attribute guard taken by the CSS guard.** -/
theorem attribute_guard_taken_by_style :
    resolve "<if_#a has title attribute with value save as draft>".toText
        = ⟨"cy.get('#a').should('have.css', 'title attribute with value save', 'draft')".toText, []⟩
      ∧ resolve (statement "#a".toText "title".toText "save as draft".toText)
        ≠ ⟨assertion "#a".toText "title".toText "save as draft".toText, []⟩ := by
  have hstatement : statement "#a".toText "title".toText "save as draft".toText
      = "<if_#a has title attribute with value save as draft>".toText := by decide
  have hresolve : resolve "<if_#a has title attribute with value save as draft>".toText
      = ⟨"cy.get('#a').should('have.css', 'title attribute with value save', 'draft')".toText,
        []⟩ := by
    decide +kernel
  refine ⟨hresolve, ?_⟩
  rw [hstatement, hresolve]
  decide

end AttributeGuard

end ScenarioScript
