import ScenarioScript.Placeholder.Registry
import ScenarioScript.Proofs.Placeholder.Phrases

/-!
# What the slots of a phrase take

An argument may be cut up in several ways such that groups and fixed words alternate as in the
phrase: the fixed words may stand inside a group.  Matching tries one way after another.  This file
says when there is a match, and which way it takes.

* `Phrase.Decomposes` — **a way to cut up an argument**: groups that give the argument if they are
  written into the slots.
* `Phrase.IsGreedy` — **the greedy way**: the first group is as long as in any other way, the second
  as long as in any other way with the same first group, and so on.
* `Phrase.decomposes_cons_iff`, `Phrase.isGreedy_cons_iff` — behind the first group, what is left of
  the phrase is a phrase again, so that all proofs go from slot to slot.
* `Phrase.captures?_eq_some_iff` — a match takes the greedy way, `Phrase.exists_captures?_iff` — and
  there is a match whenever there is any way.
* `forms_take_greedy_groups` — the result, for all forms and families.
-/

namespace ScenarioScript

namespace Phrase

/-- **A decomposition of an argument**: one group for each slot.  Written into the slots, between
    the fixed words, the groups give the whole argument. -/
structure Decomposes (phrase : Phrase) (argument : Text) (groups : List Text) : Prop where
  written : phrase.write? groups = some argument
  length_eq : groups.length = phrase.slots.length
  isGroup : ∀ group ∈ groups, IsGroup group

instance (group : Text) : Decidable (IsGroup group) :=
  inferInstanceAs (Decidable (_ ∧ _))

instance (phrase : Phrase) (argument : Text) (groups : List Text) :
    Decidable (phrase.Decomposes argument groups) :=
  decidable_of_iff (phrase.write? groups = some argument
      ∧ groups.length = phrase.slots.length ∧ ∀ group ∈ groups, IsGroup group)
    ⟨fun ⟨h₁, h₂, h₃⟩ => ⟨h₁, h₂, h₃⟩, fun ⟨h₁, h₂, h₃⟩ => ⟨h₁, h₂, h₃⟩⟩

/-- **The greedy decomposition.** Any other decomposition that agrees with it in front of some slot
    has no longer group in this slot. -/
structure IsGreedy (phrase : Phrase) (argument : Text) (groups : List Text) : Prop
    extends Decomposes phrase argument groups where
  longest : ∀ others, phrase.Decomposes argument others →
    ∀ i, others.take i = groups.take i →
      ∀ group other, groups[i]? = some group → others[i]? = some other →
        other.length ≤ group.length

/-! ## From slot to slot -/

section Slots

variable {lead argument : Text} {slot : Slot} {slots : List Slot} {group : Text}
  {groups : List Text}

lemma decomposes_nil_iff : Decomposes ⟨lead, []⟩ argument groups ↔ argument = lead ∧ groups = [] := by
  constructor
  · rintro ⟨hwritten, hlength, -⟩
    obtain rfl : groups = [] := List.length_eq_zero_iff.mp hlength
    simpa [write?, writeSlots?, eq_comm] using hwritten
  · rintro ⟨rfl, rfl⟩
    exact ⟨by simp [write?, writeSlots?], rfl, by simp⟩

/-- **Behind the first group** stands an argument of the phrase that is left: the fixed words behind
    the first slot lead it. -/
lemma decomposes_cons_iff :
    Decomposes ⟨lead, slot :: slots⟩ argument (group :: groups)
      ↔ IsGroup group ∧ ∃ behind, argument = lead ++ (group ++ behind)
          ∧ Decomposes ⟨slot.tail, slots⟩ behind groups := by
  constructor
  · rintro ⟨hwritten, hlength, hgroups⟩
    obtain ⟨hgroup, hrest⟩ := List.forall_mem_cons.mp hgroups
    obtain ⟨text, htext, rfl⟩ := Option.map_eq_some_iff.mp hwritten
    obtain ⟨rest, hslots, rfl⟩ := Option.map_eq_some_iff.mp htext
    refine ⟨hgroup, slot.tail ++ rest, by simp, ?_, by simpa using hlength, hrest⟩
    rw [write?, hslots]
    rfl
  · rintro ⟨hgroup, behind, rfl, hwritten, hlength, hgroups⟩
    obtain ⟨rest, hslots, rfl⟩ := Option.map_eq_some_iff.mp hwritten
    refine ⟨?_, by simpa using hlength, List.forall_mem_cons.mpr ⟨hgroup, hgroups⟩⟩
    rw [write?, writeSlots?, hslots]
    simp

lemma Decomposes.exists_cons (h : Decomposes ⟨lead, slot :: slots⟩ argument groups) :
    ∃ first rest, groups = first :: rest :=
  List.exists_cons_of_length_eq_add_one h.length_eq

/-- **Greed goes from slot to slot**: the first group is as long as the rest of the phrase allows,
    and behind it the others are greedy. -/
lemma isGreedy_cons_iff :
    IsGreedy ⟨lead, slot :: slots⟩ argument (group :: groups)
      ↔ IsGroup group ∧ ∃ behind, argument = lead ++ (group ++ behind)
          ∧ IsGreedy ⟨slot.tail, slots⟩ behind groups
          ∧ ∀ other rest, IsGroup other → argument = lead ++ (other ++ rest) →
              (∃ others, Decomposes ⟨slot.tail, slots⟩ rest others) →
                other.length ≤ group.length := by
  constructor
  · rintro ⟨hdecomposes, hlongest⟩
    obtain ⟨hgroup, behind, hbehind, htail⟩ := decomposes_cons_iff.mp hdecomposes
    refine ⟨hgroup, behind, hbehind, ⟨htail, ?_⟩, ?_⟩
    · intro others hothers i hsame next other hnext hother
      have hwhole : Decomposes ⟨lead, slot :: slots⟩ argument (group :: others) :=
        decomposes_cons_iff.mpr ⟨hgroup, behind, hbehind, hothers⟩
      exact hlongest _ hwhole (i + 1) (by simpa using hsame) next other (by simpa using hnext)
        (by simpa using hother)
    · rintro other rest hother hrest ⟨others, hothers⟩
      have hwhole : Decomposes ⟨lead, slot :: slots⟩ argument (other :: others) :=
        decomposes_cons_iff.mpr ⟨hother, rest, hrest, hothers⟩
      exact hlongest _ hwhole 0 rfl group other rfl rfl
  · rintro ⟨hgroup, behind, hbehind, htail, hfirst⟩
    refine ⟨decomposes_cons_iff.mpr ⟨hgroup, behind, hbehind, htail.toDecomposes⟩, ?_⟩
    intro all hall i hsame next other hnext hother
    obtain ⟨first, others, rfl⟩ := hall.exists_cons
    obtain ⟨hisgroup, rest, hrest, hothers⟩ := decomposes_cons_iff.mp hall
    cases i with
    | zero =>
        obtain rfl : group = next := by simpa using hnext
        obtain rfl : first = other := by simpa using hother
        exact hfirst first rest hisgroup hrest ⟨others, hothers⟩
    | succ i =>
        -- the first groups are the same, so both ways go on with the same text
        obtain ⟨rfl, hbelow⟩ : first = group ∧ others.take i = groups.take i := by
          simpa using hsame
        obtain rfl : rest = behind := by simpa using hrest.symm.trans hbehind
        exact htail.longest others hothers i hbelow next other (by simpa using hnext)
          (by simpa using hother)

end Slots

/-! ## Matching -/

/-- **The longest group** that lets the rest match, without the recursion. -/
lemma longest_eq_some_iff {α : Type} {rest? : Text → Option α} {text group : Text} {found : α} :
    longest rest? text = some (group, found)
      ↔ IsGroup group ∧ ∃ behind, text = group ++ behind ∧ rest? behind = some found
          ∧ ∀ other rest, IsGroup other → text = other ++ rest → (∃ result, rest? rest = some result) →
              other.length ≤ group.length := by
  constructor
  · intro h
    obtain ⟨hgroup, behind, htext, hbehind⟩ := longest_eq_some h
    refine ⟨hgroup, behind, htext, hbehind, ?_⟩
    rintro other rest hother rfl ⟨result, hresult⟩
    exact length_le_of_longest hother hresult h
  · rintro ⟨hgroup, behind, rfl, hbehind, hlongest⟩
    obtain ⟨⟨taken, result⟩, hresult⟩ := exists_longest rest? hgroup hbehind
    obtain ⟨htaken, rest, heq, hrest⟩ := longest_eq_some hresult
    -- what is taken is as long as the group, and both begin the same text
    have hle := length_le_of_longest hgroup hbehind hresult
    have hge := hlongest taken rest htaken heq ⟨result, hrest⟩
    obtain ⟨rfl, rfl⟩ := List.append_inj heq (by omega)
    rw [hresult, Option.some.inj (hrest.symm.trans hbehind)]

/-- **There is a match whenever there is a decomposition.** -/
lemma exists_captures?_iff {phrase : Phrase} {argument : Text} :
    (∃ groups, phrase.captures? argument = some groups)
      ↔ ∃ groups, phrase.Decomposes argument groups := by
  constructor
  · rintro ⟨groups, h⟩
    obtain ⟨hwritten, hlength, hgroups⟩ := write?_of_captures? h
    exact ⟨groups, hwritten, hlength, hgroups⟩
  · rintro ⟨groups, h⟩
    exact exists_captures?_of_write? h.isGroup h.written

lemma captures?_nil_iff {lead argument : Text} {groups : List Text} :
    captures? ⟨lead, []⟩ argument = some groups ↔ argument = lead ∧ groups = [] := by
  simp only [captures?, Option.bind_eq_some_iff, Text.after?_eq_some_iff, slotCaptures?]
  constructor
  · rintro ⟨rest, rfl, h⟩
    cases rest with
    | nil => simpa [eq_comm] using h
    | cons c rest => simp at h
  · rintro ⟨rfl, rfl⟩
    exact ⟨[], by simp, rfl⟩

lemma captures?_cons_iff {lead argument : Text} {slot : Slot} {slots : List Slot}
    {groups : List Text} :
    captures? ⟨lead, slot :: slots⟩ argument = some groups
      ↔ ∃ text group rest, argument = lead ++ text ∧ groups = group :: rest
          ∧ longest (captures? ⟨slot.tail, slots⟩) text = some (group, rest) := by
  have hslots : ∀ text, slotCaptures? (slot :: slots) text
      = (longest (captures? ⟨slot.tail, slots⟩) text).map fun taken => taken.1 :: taken.2 :=
    fun text => rfl
  simp only [captures?, Option.bind_eq_some_iff, Text.after?_eq_some_iff, hslots,
    Option.map_eq_some_iff]
  constructor
  · rintro ⟨text, rfl, ⟨group, rest⟩, hlongest, rfl⟩
    exact ⟨text, group, rest, rfl, rfl, hlongest⟩
  · rintro ⟨text, group, rest, rfl, rfl, hlongest⟩
    exact ⟨text, rfl, (group, rest), hlongest, rfl⟩

/-- **The slots take the greedy decomposition.** -/
theorem captures?_eq_some_iff {phrase : Phrase} {argument : Text} {groups : List Text} :
    phrase.captures? argument = some groups ↔ phrase.IsGreedy argument groups := by
  obtain ⟨lead, slots⟩ := phrase
  -- the fixed words behind a slot lead the phrase of the slots behind it
  induction slots generalizing lead argument groups with
  | nil =>
      rw [captures?_nil_iff, ← decomposes_nil_iff]
      constructor
      · intro h
        refine ⟨h, ?_⟩
        rintro others - i - group other hgroup -
        simp [(decomposes_nil_iff.mp h).2] at hgroup
      · intro h
        exact h.toDecomposes
  | cons slot slots ih =>
      rw [captures?_cons_iff]
      constructor
      · rintro ⟨text, group, rest, rfl, rfl, hlongest⟩
        obtain ⟨hgroup, behind, rfl, hbehind, hleast⟩ := longest_eq_some_iff.mp hlongest
        refine isGreedy_cons_iff.mpr ⟨hgroup, behind, rfl, (ih slot.tail).mp hbehind, ?_⟩
        intro other rest' hother heq hothers
        exact hleast other rest' hother (List.append_cancel_left heq)
          (exists_captures?_iff.mpr hothers)
      · intro h
        obtain ⟨group, rest, rfl⟩ := h.exists_cons
        obtain ⟨hgroup, behind, rfl, htail, hfirst⟩ := isGreedy_cons_iff.mp h
        refine ⟨group ++ behind, group, rest, rfl, rfl, ?_⟩
        refine longest_eq_some_iff.mpr ⟨hgroup, behind, rfl, (ih slot.tail).mpr htail, ?_⟩
        intro other rest' hother heq hothers
        exact hfirst other rest' hother (by rw [heq]) (exists_captures?_iff.mp hothers)

-- Of two ways to cut up an argument, the one with the longer first group is taken.
example :
    let phrase : Phrase := ⟨[], [⟨" as ".toText⟩, ⟨[]⟩]⟩
    phrase.Decomposes "a as b as c".toText ["a".toText, "b as c".toText]
      ∧ phrase.Decomposes "a as b as c".toText ["a as b".toText, "c".toText]
      ∧ phrase.captures? "a as b as c".toText = some ["a as b".toText, "c".toText] := by
  decide

end Phrase

/-! ## Forms and families -/

lemma Form.accepts_iff {form : Form} {argument : Text} :
    form.accepts argument = true ↔ ∃ groups, form.phrase.Decomposes argument groups := by
  rw [Form.accepts, Option.isSome_iff_exists, Phrase.exists_captures?_iff]

/-- **Which forms accept an argument, and what their slots take.**

    * A form accepts exactly the arguments that its phrase decomposes, and its slots take the greedy
      decomposition.
    * A family takes the first of its forms for which there is a decomposition, and none if there is
      no such form.
    * The form that is taken has code for the argument, with the groups of the greedy decomposition
      as its values. -/
theorem forms_take_greedy_groups :
    (∀ (form : Form) (argument : Text),
        (form.accepts argument = true ↔ ∃ groups, form.phrase.Decomposes argument groups)
          ∧ ∀ groups, form.phrase.captures? argument = some groups
              ↔ form.phrase.IsGreedy argument groups)
      ∧ ∀ (family : Family) (argument : Text),
          (family.form? argument = none
              ↔ ∀ form ∈ family.forms, ¬ ∃ groups, form.phrase.Decomposes argument groups)
            ∧ (∀ form, family.form? argument = some form
              ↔ ∃ earlier later, family.forms = earlier ++ form :: later
                  ∧ (∃ groups, form.phrase.Decomposes argument groups)
                  ∧ ∀ other ∈ earlier, ¬ ∃ groups, other.phrase.Decomposes argument groups)
            ∧ ∀ form, family.form? argument = some form →
                ∃ groups, form.phrase.IsGreedy argument groups
                  ∧ form.render? argument = some (form.code.render groups)
                  ∧ family.render? argument = form.render? argument := by
  refine ⟨fun form argument => ⟨Form.accepts_iff, fun groups => Phrase.captures?_eq_some_iff⟩,
    fun family argument => ⟨?_, ?_, ?_⟩⟩
  · simp only [Family.form?, List.find?_eq_none, Form.accepts_iff]
  · intro form
    rw [Family.form?, List.find?_eq_some_iff_append]
    constructor
    · rintro ⟨haccepts, earlier, later, hforms, hearlier⟩
      refine ⟨earlier, later, hforms, Form.accepts_iff.mp haccepts, ?_⟩
      intro other hother hdecomposes
      simpa [Form.accepts_iff.mpr hdecomposes] using hearlier other hother
    · rintro ⟨earlier, later, hforms, hdecomposes, hearlier⟩
      refine ⟨Form.accepts_iff.mpr hdecomposes, earlier, later, hforms, ?_⟩
      intro other hother
      rw [Bool.not_eq_true', ← Bool.not_eq_true, Form.accepts_iff]
      exact hearlier other hother
  · intro form hform
    have haccepts : form.accepts argument = true := by simpa using List.find?_some hform
    obtain ⟨groups, hcaptures⟩ := Option.isSome_iff_exists.mp haccepts
    refine ⟨groups, Phrase.captures?_eq_some_iff.mp hcaptures, ?_, ?_⟩
    · rw [Form.render?, hcaptures]
      rfl
    · rw [Family.render?, hform]
      rfl

/-- The case of a guard whose words stand inside the values as well: the first slot takes up to the
    last `has`, the second up to the last `as`. -/
theorem forms_take_greedy_groups_style_guard :
    ∃ form, (Family.ofTag .guard).form? "a has b has c as d as e".toText = some form
      ∧ form.phrase.IsGreedy "a has b has c as d as e".toText
        ["a has b".toText, "c as d".toText, "e".toText]
      ∧ (Family.ofTag .guard).render? "a has b has c as d as e".toText
        = some "cy.get('a has b').should('have.css', 'c as d', 'e')".toText := by
  obtain ⟨hforms, hfamilies⟩ := forms_take_greedy_groups
  have hform : (Family.ofTag .guard).form? "a has b has c as d as e".toText
      = some ((Family.ofTag .guard).forms.get ⟨6, by decide⟩) := rfl
  have hcaptures : ((Family.ofTag .guard).forms.get ⟨6, by decide⟩).phrase.captures?
      "a has b has c as d as e".toText
        = some ["a has b".toText, "c as d".toText, "e".toText] := by
    decide
  obtain ⟨groups, hgreedy, hcode, hrender⟩ := (hfamilies _ _).2.2 _ hform
  have hgroups := ((hforms _ _).2 groups).mpr hgreedy
  obtain rfl := Option.some.inj (hcaptures.symm.trans hgroups)
  exact ⟨_, hform, hgreedy, (hrender.trans hcode).trans (by decide)⟩

end ScenarioScript
