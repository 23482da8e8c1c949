import ScenarioScript.Proofs.Placeholder.Phrases
import ScenarioScript.Proofs.Statement.Meaning

/-!
# Templates and phrases agree

A form says twice what its arguments look like: the phrase decides which arguments are accepted, and
the template shows users what to write.  Both are data of the registry, and nothing but the registry
makes them agree.

* `Template.fillItems?_ofPhrase` — a template that has the items of a phrase is filled as the
  phrase is written, so that examples undo captures and captures undo examples.
* `agrees_of_mem_forms` — **every template of the registry has the items of its phrase**, with the
  brackets and the tag around them.
* `Family.form?_eq_some` — no form that is tried earlier takes the argument.  What the values are
  does not matter, because no earlier phrase fits the parts of a later one, whatever stands in its
  slots.  The one exception is the word `exists` at the end.
* `examples_and_arguments_agree` — the two directions together.
-/

namespace ScenarioScript

/-! ## Filling -/

namespace Template

/-- The items of a template that shows a phrase. -/
def ofPhrase (phrase : Phrase) : List Item :=
  phrase.lead.map .char ++ phrase.slots.flatMap fun slot => .marker :: slot.tail.map .char

lemma fillItems?_chars_append (text : Text) (items : List Item) (values : List Text) :
    fillItems? (text.map .char ++ items) values = (fillItems? items values).map (text ++ ·) := by
  induction text with
  | nil => simp
  | cons c text ih => simp [fillItems?, ih, Function.comp_def]

lemma fillItems?_slots_append (slots : List Slot) (rest : Text) (values : List Text) :
    fillItems? ((slots.flatMap fun slot => .marker :: slot.tail.map .char) ++ rest.map .char) values
      = (Phrase.writeSlots? slots values).map (· ++ rest) := by
  induction slots generalizing values with
  | nil =>
      have hrest := fillItems?_chars_append rest [] values
      simpa [fillItems?, Phrase.writeSlots?] using hrest
  | cons slot slots ih =>
      cases values with
      | nil => simp [fillItems?, Phrase.writeSlots?]
      | cons value values =>
          simp only [List.flatMap_cons, List.cons_append, List.append_assoc, fillItems?,
            fillItems?_chars_append, ih, Phrase.writeSlots?, Option.map_map]
          simp [Function.comp_def]

/-- **A template that shows a phrase is filled as the phrase is written**, between the texts that
    stand in front of it and behind it. -/
lemma fillItems?_ofPhrase (before : Text) (phrase : Phrase) (behind : Text) (values : List Text) :
    fillItems? (before.map .char ++ ofPhrase phrase ++ behind.map .char) values
      = (phrase.write? values).map fun argument => before ++ argument ++ behind := by
  simp only [ofPhrase, List.append_assoc, fillItems?_chars_append, fillItems?_slots_append,
    Phrase.write?, Option.map_map]
  simp [Function.comp_def]

end Template

/-! ## What arguments are made of -/

namespace Phrase

/-- All fixed words of a phrase. -/
def fixedText (phrase : Phrase) : Text :=
  phrase.lead ++ phrase.slots.flatMap Slot.tail

lemma notMem_writeSlots? {c : Letter} {slots : List Slot} {values : List Text} {text : Text}
    (hslots : c ∉ slots.flatMap Slot.tail) (hvalues : ∀ value ∈ values, c ∉ value)
    (h : writeSlots? slots values = some text) : c ∉ text := by
  induction slots generalizing values text with
  | nil =>
      obtain rfl := Option.some.inj h
      simp
  | cons slot slots ih =>
      cases values with
      | nil => simp [writeSlots?] at h
      | cons value values =>
          rw [writeSlots?] at h
          obtain ⟨rest, hrest, rfl⟩ := Option.map_eq_some_iff.mp h
          rw [List.flatMap_cons, List.mem_append, not_or] at hslots
          obtain ⟨hvalue, hothers⟩ := List.forall_mem_cons.mp hvalues
          have hbehind := ih hslots.2 hothers hrest
          simp [hvalue, hslots.1, hbehind]

/-- A character of an argument is one of the fixed words or of a value. -/
lemma notMem_write? {c : Letter} {phrase : Phrase} {values : List Text} {argument : Text}
    (hfixed : c ∉ phrase.fixedText) (hvalues : ∀ value ∈ values, c ∉ value)
    (h : phrase.write? values = some argument) : c ∉ argument := by
  obtain ⟨rest, hrest, rfl⟩ := Option.map_eq_some_iff.mp h
  rw [fixedText, List.mem_append, not_or] at hfixed
  rw [List.mem_append, not_or]
  exact ⟨hfixed.1, notMem_writeSlots? hfixed.2 hvalues hrest⟩

lemma ne_nil_of_captures? {phrase : Phrase} {argument : Text} {groups : List Text}
    (hphrase : phrase.slots ≠ []) (h : phrase.captures? argument = some groups) :
    argument ≠ [] := by
  rintro rfl
  obtain ⟨lead, slots⟩ := phrase
  cases slots with
  | nil => exact hphrase rfl
  | cons slot slots =>
      cases lead with
      | nil => simp [captures?, slotCaptures?, longest] at h
      | cons c lead => simp [captures?, Text.after?] at h

end Phrase

/-! ## The registry -/

/-- **Templates and phrases of the registry agree.** -/
lemma agrees_of_mem_forms (tag : Tag) : ∀ form ∈ (Family.ofTag tag).forms,
    Template.items ((Family.ofTag tag).template form)
        = tag.shape.opening.map .char ++ Template.ofPhrase form.phrase ++ [char '>'].map .char
      ∧ form.slotCount = form.phrase.slots.length := by
  cases tag <;> decide +kernel

/-- Single blanks separate what an argument is made of, and its fixed words have no bracket. -/
lemma spaced_of_mem_forms (tag : Tag) : ∀ form ∈ (Family.ofTag tag).forms,
    form.phrase.isSpaced = true ∧ char '<' ∉ form.phrase.fixedText
      ∧ char '\n' ∉ form.phrase.fixedText := by
  cases tag <;> decide +kernel

/-- Every form has a slot, except that of the null marker. -/
lemma slots_of_mem_forms (tag : Tag) : ∀ form ∈ (Family.ofTag tag).forms,
    if tag = .finish then form.phrase = ⟨tag.word, []⟩ else form.phrase.slots ≠ [] := by
  cases tag <;> decide

/-- **No earlier phrase fits the parts of a later one**, if no value is the word `exists`. -/
lemma pairwise_forms (tag : Tag) : (Family.ofTag tag).forms.Pairwise fun earlier later =>
    Phrase.fits (Phrase.Part.mayBe "exists".toText) earlier.phrase.parts later.phrase.parts
      = false := by
  cases tag <;> decide

/-- **A single word**, as a value for a slot. -/
structure IsWord (value : Text) : Prop where
  ne_nil : value ≠ []
  no_blank : char ' ' ∉ value
  no_line : char '\n' ∉ value
  no_opening : char '<' ∉ value
  no_closing : char '>' ∉ value

instance (value : Text) : Decidable (IsWord value) :=
  decidable_of_iff
    (value ≠ [] ∧ char ' ' ∉ value ∧ char '\n' ∉ value ∧ char '<' ∉ value ∧ char '>' ∉ value)
    ⟨fun ⟨h, h₁, h₂, h₃, h₄⟩ => ⟨h, h₁, h₂, h₃, h₄⟩, fun ⟨h, h₁, h₂, h₃, h₄⟩ => ⟨h, h₁, h₂, h₃, h₄⟩⟩

lemma example?_eq_map_write? {tag : Tag} {form : Form} (hform : form ∈ (Family.ofTag tag).forms)
    (values : List Text) :
    (Family.ofTag tag).example? form values = (form.phrase.write? values).map tag.shape.token := by
  rw [Family.example?, Template.fill?, (agrees_of_mem_forms tag form hform).1,
    Template.fillItems?_ofPhrase]
  rfl

/-- **The form of an argument** with single words in its slots is the one it was written with. -/
lemma Family.form?_eq_some {tag : Tag} {form : Form} (hform : form ∈ (Family.ofTag tag).forms)
    {values : List Text} {argument : Text}
    (hvalues : ∀ value ∈ values, char ' ' ∉ value ∧ value ≠ "exists".toText)
    (hcaptures : form.phrase.captures? argument = some values) :
    (Family.ofTag tag).form? argument = some form := by
  obtain ⟨left, right, hsplit⟩ := List.append_of_mem hform
  have hpairs := pairwise_forms tag
  rw [hsplit] at hpairs
  refine List.find?_eq_some_iff_append.mpr ⟨?_, left, right, hsplit, ?_⟩
  · simp [Form.accepts, hcaptures]
  · intro earlier hearlier
    have hmem : earlier ∈ (Family.ofTag tag).forms := by simp [hsplit, hearlier]
    have hfits := (List.pairwise_append.mp hpairs).2.2 earlier hearlier form (by simp)
    cases hgroups : earlier.phrase.captures? argument with
    | none => simp [Form.accepts, hgroups]
    | some groups =>
        have hspaced := (spaced_of_mem_forms tag earlier hmem).1
        have hspaced' := (spaced_of_mem_forms tag form hform).1
        have hwrite := (Phrase.write?_of_captures? hcaptures).1
        have hfit :=
          Phrase.fits_parts_of_accepts (by decide) hspaced hspaced' hgroups hwrite hvalues
        rw [hfit] at hfits
        exact absurd hfits (by simp)

/-! ## One placeholder as a statement -/

namespace Placeholder

/-- A placeholder as a statement of its own. -/
def alone (p : Placeholder) : Sentence :=
  .step [] (by decide) p (.last [] (by decide))

lemma text_alone (p : Placeholder) : p.alone.text = p.text := by
  simp [alone, Sentence.text, Sentence.write]

lemma nodup_registry : registry.Nodup :=
  List.Nodup.map (Function.LeftInverse.injective Family.tag_ofTag) (by decide)

/-- **A placeholder that has code resolves to it**, and nothing is reported. -/
lemma resolve_text {p : Placeholder} {code : Text}
    (hcode : (Family.ofTag p.tag).render? p.argument = some code) :
    resolve p.text = ⟨code, []⟩ := by
  have hknown : registry ⊆ registry := fun _ h => h
  have hlisted : p.tag ∈ registry.map Family.tag :=
    List.mem_map.mpr ⟨_, ofTag_mem_registry p.tag, Family.tag_ofTag p.tag⟩
  have hown : p.code? registry = some code := by rw [Placeholder.code?, if_pos hlisted, hcode]
  have htext : Scan.assemble 0 p.text (Scan.run registry p.text).splices = code := by
    rw [← p.text_alone, Sentence.splices_run hknown nodup_registry, Sentence.assemble_text]
    simp [alone, Sentence.write, hown]
  have hreports : (Scan.run registry p.text).unresolved = [] := by
    rw [← p.text_alone, Sentence.unresolved_run hknown nodup_registry, Sentence.reports,
      List.flatMap_eq_nil_iff]
    intro family hfamily
    rw [List.map_eq_nil_iff, List.filter_eq_nil_iff]
    intro q hq hreported
    obtain rfl : q = p := by simpa [alone, Sentence.placeholders] using hq
    simp only [Bool.and_eq_true, decide_eq_true_eq, Option.isNone_iff_eq_none] at hreported
    obtain ⟨htag, hnone⟩ := hreported
    rw [eq_ofTag_of_mem_registry hfamily, ← htag, ← Family.render?_eq_none_iff, hcode] at hnone
    exact absurd hnone (by simp)
  rw [resolve, resolveWith, htext, hreports]

/-- A search from the beginning finds it whole. -/
lemma search_text (p : Placeholder) :
    p.tag.shape.search p.text 0 = some ⟨0, p.text.length, p.argument⟩ := by
  have hread := p.argumentAt?_text_append p.tag (show Shape.isClear [] = true from rfl)
  rw [List.append_nil, if_pos rfl] at hread
  obtain ⟨c, rest, hcons⟩ : ∃ c rest, p.text = c :: rest := ⟨_, _, p.text_eq⟩
  rw [Shape.search, Shape.candidates, hcons, Shape.candidatesFrom, ← hcons, hread]
  simp [Placeholder.text]

end Placeholder

/-! ## Examples and arguments -/

lemma eq_word_of_captures? {form : Form} {argument : Text} {groups : List Text}
    (hform : form ∈ (Family.ofTag .finish).forms)
    (h : form.phrase.captures? argument = some groups) : argument = Tag.finish.word := by
  have hwrite := (Phrase.write?_of_captures? h).1
  have hphrase := slots_of_mem_forms .finish form hform
  rw [if_pos rfl] at hphrase
  rw [hphrase] at hwrite
  simpa [Phrase.write?, Phrase.writeSlots?] using hwrite.symm

/-- An argument that a form accepts is one that the shape of the family admits. -/
lemma admits_of_captures? {tag : Tag} {form : Form} {argument : Text} {groups : List Text}
    (hform : form ∈ (Family.ofTag tag).forms)
    (h : form.phrase.captures? argument = some groups) : tag.shape.Admits argument := by
  obtain ⟨-, -, hline⟩ := spaced_of_mem_forms tag form hform
  obtain ⟨hwrite, -, hgroups⟩ := Phrase.write?_of_captures? h
  have hslots := slots_of_mem_forms tag form hform
  have hleading : tag ≠ .finish → argument ≠ [] ∧ char '\n' ∉ argument := by
    intro htag
    rw [if_neg htag] at hslots
    refine ⟨Phrase.ne_nil_of_captures? hslots h, Phrase.notMem_write? hline ?_ hwrite⟩
    exact fun group hgroup => (hgroups group hgroup).2
  cases tag with
  | finish => exact eq_word_of_captures? hform h
  | _ => exact hleading (by simp)

/-- **Examples and arguments undo each other.**  What the slots of a form take in an argument, put
    in place of the markers of its template, gives the placeholder with this argument; there are as
    many markers as there are slots.  Single words other than `exists`, put in place of the
    markers, give a placeholder that a search finds whole.  Its argument belongs to this form and
    to no earlier one, its slots take the words again, and the placeholder resolves to the code of
    the form for these words. -/
theorem examples_and_arguments_agree :
    (∀ family ∈ registry, ∀ form ∈ family.forms, ∀ (argument : Text) (groups : List Text),
        form.phrase.captures? argument = some groups →
          form.slotCount = groups.length
            ∧ family.example? form groups = some (if family.tag = .finish then "<end>".toText
              else char '<' :: family.tag.word ++ char '_' :: argument ++ [char '>']))
      ∧ ∀ family ∈ registry, ∀ form ∈ family.forms, ∀ values : List Text,
          values.length = form.slotCount →
          (∀ value ∈ values, IsWord value ∧ value ≠ "exists".toText) →
            ∃ statement argument, family.example? form values = some statement
              ∧ family.shape.search statement 0 = some ⟨0, statement.length, argument⟩
              ∧ family.form? argument = some form
              ∧ form.phrase.captures? argument = some values
              ∧ resolve statement = ⟨form.code.render values, []⟩ := by
  refine ⟨fun family hfamily form hform argument groups h => ?_,
    fun family hfamily form hform values hlength hvalues => ?_⟩
  · obtain ⟨tag, -, rfl⟩ := List.mem_map.mp hfamily
    obtain ⟨hwrite, hcount, -⟩ := Phrase.write?_of_captures? h
    refine ⟨(agrees_of_mem_forms tag form hform).2.trans hcount.symm, ?_⟩
    rw [example?_eq_map_write? hform, hwrite, Family.tag_ofTag]
    cases tag with
    | finish =>
        rw [eq_word_of_captures? hform h]
        rfl
    | _ => rfl
  · obtain ⟨tag, -, rfl⟩ := List.mem_map.mp hfamily
    obtain ⟨hspaced, hopening, -⟩ := spaced_of_mem_forms tag form hform
    have hslots : values.length = form.phrase.slots.length :=
      hlength.trans (agrees_of_mem_forms tag form hform).2
    obtain ⟨argument, hwrite⟩ := Phrase.exists_write? hslots
    have hword : ∀ value ∈ values, IsWord value := fun value hvalue => (hvalues value hvalue).1
    have hcaptures : form.phrase.captures? argument = some values :=
      Phrase.captures?_eq_some_of_write? hspaced hslots
        (fun value hvalue => ⟨(hword value hvalue).ne_nil, (hword value hvalue).no_line⟩)
        (fun value hvalue => (hword value hvalue).no_blank) hwrite
    have hform? : (Family.ofTag tag).form? argument = some form :=
      Family.form?_eq_some hform
        (fun value hvalue => ⟨(hword value hvalue).no_blank, (hvalues value hvalue).2⟩) hcaptures
    have hflat : char '<' ∉ argument :=
      Phrase.notMem_write? hopening (fun value hvalue => (hword value hvalue).no_opening) hwrite
    let placeholder : Placeholder := ⟨tag, argument, admits_of_captures? hform hcaptures, hflat⟩
    have hcode : (Family.ofTag tag).render? argument = some (form.code.render values) := by
      rw [Family.render?, hform?, Option.bind_some, Form.render?, hcaptures, Option.map_some]
    refine ⟨placeholder.text, argument, ?_, ?_, hform?, hcaptures, Placeholder.resolve_text hcode⟩
    · rw [example?_eq_map_write? hform, hwrite]
      rfl
    · rw [Family.shape, Family.tag_ofTag]
      exact placeholder.search_text

/-- Values that are fixed words of the guards themselves. -/
def keywords : List Text :=
  ["has".toText, "as".toText, "as".toText]

/-- The case of keywords as values: `<if_has has as as as>`. -/
theorem examples_agree_on_keywords :
    ∃ form ∈ (Family.ofTag .guard).forms, ∃ statement argument,
      keywords.length = form.slotCount
        ∧ (∀ value ∈ keywords, IsWord value ∧ value ≠ "exists".toText)
        ∧ (Family.ofTag .guard).example? form keywords = some statement
        ∧ (Family.ofTag .guard).form? argument = some form
        ∧ form.phrase.captures? argument = some keywords
        ∧ resolve statement = ⟨"cy.get('has').should('have.css', 'as', 'as')".toText, []⟩
        ∧ (Family.ofTag .guard).example? form keywords
          = some (char '<' :: Tag.guard.word ++ char '_' :: argument ++ [char '>']) := by
  obtain ⟨hforward, hback⟩ := examples_and_arguments_agree
  have hfamily := ofTag_mem_registry .guard
  have hform : (Family.ofTag .guard).forms.get ⟨6, by decide⟩ ∈ (Family.ofTag .guard).forms :=
    List.get_mem _ _
  have hvalues : ∀ value ∈ keywords, IsWord value ∧ value ≠ "exists".toText := by decide
  obtain ⟨statement, argument, hexample, -, hform?, hcaptures, hresolve⟩ :=
    hback _ hfamily _ hform keywords (by decide) hvalues
  exact ⟨_, hform, statement, argument, by decide, hvalues, hexample, hform?, hcaptures,
    hresolve.trans (by decide), (hforward _ hfamily _ hform _ _ hcaptures).2⟩

end ScenarioScript
