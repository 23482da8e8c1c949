import Mathlib.Data.List.Forall2
import Mathlib.Tactic.Lemma
import ScenarioScript.Placeholder.Phrase

/-!
# Phrases, their groups and their words

**Groups.**  What the slots of a phrase take, written back into the slots, is the argument
(`write?_of_captures?`), and whatever can be written into the slots is an argument of the phrase
(`exists_captures?_of_write?`).  Which groups are taken is a matter of greed, because a group may
hold the fixed words of the phrase.

**Words.**  There is nothing to choose if every value is a single word.  A phrase whose fixed words
are separated by single blanks is a sequence of *parts*: words, and slots for one or more words.
An argument with as many words as the phrase has parts leaves each slot one word, so that the
values come back (`captures?_eq_some_of_write?`).  And whether some other phrase fits, with values
that are still unknown, can be decided on the parts alone (`fits_parts_of_accepts`).
-/

namespace ScenarioScript

/-! ## Words of a text -/

namespace Text

/-- **The words of a text**: what stands between single blanks, possibly nothing. -/
def words (text : Text) : List Text :=
  text.splitOn (char ' ')

lemma words_append_blank (text rest : Text) :
    words (text ++ char ' ' :: rest) = words text ++ words rest :=
  List.splitOn_append_cons_self text rest

lemma words_ne_nil (text : Text) : words text ≠ [] :=
  List.splitOn_ne_nil (char ' ') text

lemma words_of_free {text : Text} (h : char ' ' ∉ text) : words text = [text] :=
  List.splitOn_eq_singleton h

lemma eq_of_words_eq {text word : Text} (h : words text = [word]) : text = word := by
  have hback : [char ' '].intercalate (words text) = text := List.intercalate_splitOn (char ' ')
  rw [h, List.intercalate_singleton] at hback
  exact hback.symm

/-- Words with a blank behind each. -/
def before (list : List Text) : Text :=
  list.flatMap fun word => word ++ [char ' ']

/-- Words with a blank in front of each. -/
def behind (list : List Text) : Text :=
  list.flatMap fun word => char ' ' :: word

lemma behind_eq_cons : ∀ {list : List Text}, list ≠ [] →
    behind list = char ' ' :: [char ' '].intercalate list
  | [], hne => absurd rfl hne
  | [word], _ => by simp [behind]
  | word :: next :: rest, _ => by
      have hrest := behind_eq_cons (List.cons_ne_nil next rest)
      simp only [behind] at hrest
      rw [List.intercalate_cons_cons, behind, List.flatMap_cons, hrest]
      simp

/-- A text is what its words make, less the first blank. -/
lemma behind_words (text : Text) : behind (words text) = char ' ' :: text := by
  have hback : [char ' '].intercalate (words text) = text := List.intercalate_splitOn (char ' ')
  rw [behind_eq_cons (words_ne_nil text), hback]

lemma words_before_append {list : List Text} (hfree : ∀ word ∈ list, char ' ' ∉ word)
    (text : Text) :
    words (before list ++ text) = list ++ words text := by
  induction list with
  | nil => rfl
  | cons word list ih =>
      have hword := words_of_free (hfree word (by simp))
      have hrest := ih fun other hother => hfree other (List.mem_cons_of_mem word hother)
      simp only [before] at hrest
      simp only [before, List.flatMap_cons, List.append_assoc, words_append_blank, hword,
        hrest, List.cons_append, List.nil_append]

lemma words_append_behind {list : List Text} (hfree : ∀ word ∈ list, char ' ' ∉ word)
    (text : Text) :
    words (text ++ behind list) = words text ++ list := by
  induction list generalizing text with
  | nil => simp [behind]
  | cons word list ih =>
      have hword := words_of_free (hfree word (by simp))
      have hrest := ih (fun other hother => hfree other (List.mem_cons_of_mem word hother)) word
      simp only [behind] at hrest
      simp only [behind, List.flatMap_cons, List.cons_append, words_append_blank, hrest, hword,
        List.nil_append]

end Text

namespace Phrase

/-! ## Writing -/

/-- Values in slots; `none` if there are fewer values than slots. -/
def writeSlots? : List Slot → List Text → Option Text
  | [], _ => some []
  | _ :: _, [] => none
  | slot :: slots, value :: values =>
    (writeSlots? slots values).map fun rest => value ++ slot.tail ++ rest

/-- **A phrase with values in its slots.** Values beyond the last slot are ignored; with fewer
    values than slots there is no such phrase. -/
def write? (phrase : Phrase) (values : List Text) : Option Text :=
  (writeSlots? phrase.slots values).map (phrase.lead ++ ·)

/-! ## Groups -/

/-- **What a slot may take.** -/
def IsGroup (group : Text) : Prop :=
  group ≠ [] ∧ char '\n' ∉ group

lemma longest_eq_some {α : Type} {rest? : Text → Option α} {text group : Text} {found : α}
    (h : longest rest? text = some (group, found)) :
    IsGroup group ∧ ∃ rest, text = group ++ rest ∧ rest? rest = some found := by
  induction text generalizing group with
  | nil => simp [longest] at h
  | cons c text ih =>
      rw [longest] at h
      split at h
      · simp at h
      · rename_i hc
        split at h
        · rename_i tail other hlonger
          obtain ⟨rfl, rfl⟩ := Prod.mk.inj (Option.some.inj h)
          obtain ⟨⟨-, hline⟩, rest, rfl, hrest⟩ := ih hlonger
          exact ⟨⟨by simp, by simp [hline, Ne.symm hc]⟩, rest, rfl, hrest⟩
        · obtain ⟨other, hother, hpair⟩ := Option.map_eq_some_iff.mp h
          obtain ⟨rfl, rfl⟩ := Prod.mk.inj hpair
          exact ⟨⟨by simp, by simp [Ne.symm hc]⟩, text, rfl, hother⟩

lemma exists_longest {α : Type} (rest? : Text → Option α) {group rest : Text} {found : α}
    (hgroup : IsGroup group) (hrest : rest? rest = some found) :
    ∃ result, longest rest? (group ++ rest) = some result := by
  induction group with
  | nil => exact absurd rfl hgroup.1
  | cons c group ih =>
      have hc : c ≠ char '\n' := fun hc => hgroup.2 (by simp [hc])
      rw [List.cons_append, longest, if_neg hc]
      cases hlonger : longest rest? (group ++ rest) with
      | some result => exact ⟨_, rfl⟩
      | none =>
          -- no longer group fits, so this one has to end here
          cases group with
          | nil => exact ⟨_, by rw [List.nil_append, hrest]; rfl⟩
          | cons d group =>
              have hline : char '\n' ∉ d :: group :=
                fun hmem => hgroup.2 (List.mem_cons_of_mem c hmem)
              obtain ⟨result, hresult⟩ := ih ⟨by simp, hline⟩
              exact absurd (hlonger.symm.trans hresult) (by simp)

/-- No group that lets the rest match is longer. -/
lemma length_le_of_longest {α : Type} {rest? : Text → Option α} {group other rest : Text}
    {found found' : α} (hother : IsGroup other) (hrest : rest? rest = some found')
    (h : longest rest? (other ++ rest) = some (group, found)) : other.length ≤ group.length := by
  induction other generalizing group with
  | nil => exact absurd rfl hother.1
  | cons c other ih =>
      have hc : c ≠ char '\n' := fun hc => hother.2 (by simp [hc])
      have hline : char '\n' ∉ other := fun hmem => hother.2 (List.mem_cons_of_mem c hmem)
      rw [List.cons_append, longest, if_neg hc] at h
      cases hlonger : longest rest? (other ++ rest) with
      | some result =>
          rw [hlonger] at h
          obtain ⟨rfl, rfl⟩ := Prod.mk.inj (Option.some.inj h)
          cases other with
          | nil => simp
          | cons d other =>
              have hle := ih ⟨by simp, hline⟩ hlonger
              simp only [List.length_cons] at hle ⊢
              omega
      | none =>
          rw [hlonger] at h
          cases other with
          | nil =>
              obtain ⟨_, -, hpair⟩ := Option.map_eq_some_iff.mp h
              have hgroup := (Prod.mk.inj hpair).1
              exact Nat.le_of_eq (congrArg List.length hgroup)
          | cons d other =>
              obtain ⟨result, hresult⟩ := exists_longest rest? ⟨by simp, hline⟩ hrest
              exact absurd (hlonger.symm.trans hresult) (by simp)

lemma writeSlots?_of_slotCaptures? {slots : List Slot} {text : Text} {groups : List Text}
    (h : slotCaptures? slots text = some groups) :
    writeSlots? slots groups = some text ∧ groups.length = slots.length
      ∧ ∀ group ∈ groups, IsGroup group := by
  induction slots generalizing text groups with
  | nil =>
      rw [slotCaptures?] at h
      split at h
      · rename_i hempty
        obtain rfl := Option.some.inj h
        simpa [writeSlots?] using hempty.symm
      · simp at h
  | cons slot slots ih =>
      rw [slotCaptures?] at h
      obtain ⟨⟨group, tail⟩, hlongest, rfl⟩ := Option.map_eq_some_iff.mp h
      obtain ⟨hgroup, rest, rfl, hrest⟩ := longest_eq_some hlongest
      obtain ⟨behind, hafter, hslots⟩ := Option.bind_eq_some_iff.mp hrest
      obtain ⟨hwrite, hlength, hgroups⟩ := ih hslots
      obtain rfl := Text.after?_eq_some_iff.mp hafter
      refine ⟨?_, by simp [hlength], ?_⟩
      · rw [writeSlots?, hwrite]
        simp
      · exact List.forall_mem_cons.mpr ⟨hgroup, hgroups⟩

/-- What the first slot takes, and what it leaves to the others. -/
lemma exists_of_slotCaptures?_cons {slot : Slot} {slots : List Slot} {text group : Text}
    {groups : List Text} (h : slotCaptures? (slot :: slots) text = some (group :: groups)) :
    ∃ rest, text = group ++ (slot.tail ++ rest) ∧ slotCaptures? slots rest = some groups := by
  rw [slotCaptures?] at h
  obtain ⟨⟨other, others⟩, hlongest, heq⟩ := Option.map_eq_some_iff.mp h
  obtain ⟨rfl, rfl⟩ := List.cons.inj heq
  obtain ⟨-, behind, rfl, hbehind⟩ := longest_eq_some hlongest
  obtain ⟨rest, hafter, hslots⟩ := Option.bind_eq_some_iff.mp hbehind
  exact ⟨rest, by rw [Text.after?_eq_some_iff.mp hafter], hslots⟩

/-- **Greed**: the first slot takes as much as lets the others match. -/
lemma length_le_of_slotCaptures? {slot : Slot} {slots : List Slot} {group other rest : Text}
    {groups found : List Text} (hother : IsGroup other)
    (hrest : slotCaptures? slots rest = some found)
    (h : slotCaptures? (slot :: slots) (other ++ (slot.tail ++ rest)) = some (group :: groups)) :
    other.length ≤ group.length := by
  rw [slotCaptures?] at h
  obtain ⟨⟨first, others⟩, hlongest, heq⟩ := Option.map_eq_some_iff.mp h
  obtain ⟨rfl, rfl⟩ := List.cons.inj heq
  have hbehind : (Text.after? slot.tail (slot.tail ++ rest)).bind (slotCaptures? slots)
      = some found := by
    rw [Text.after?_eq_some_iff.mpr rfl]
    exact hrest
  exact length_le_of_longest hother hbehind hlongest

lemma exists_slotCaptures? {slots : List Slot} {text : Text} {values : List Text}
    (hgroups : ∀ value ∈ values, IsGroup value) (h : writeSlots? slots values = some text) :
    ∃ groups, slotCaptures? slots text = some groups := by
  induction slots generalizing text values with
  | nil =>
      obtain rfl := Option.some.inj h
      exact ⟨[], rfl⟩
  | cons slot slots ih =>
      cases values with
      | nil => simp [writeSlots?] at h
      | cons value values =>
          rw [writeSlots?] at h
          obtain ⟨rest, hwrite, rfl⟩ := Option.map_eq_some_iff.mp h
          obtain ⟨hvalue, hvalues⟩ := List.forall_mem_cons.mp hgroups
          obtain ⟨groups, hslots⟩ := ih hvalues hwrite
          have hrest : (Text.after? slot.tail (slot.tail ++ rest)).bind (slotCaptures? slots)
              = some groups := by
            rw [Text.after?_eq_some_iff.mpr rfl]
            exact hslots
          obtain ⟨result, hresult⟩ := exists_longest
            (fun text => (Text.after? slot.tail text).bind (slotCaptures? slots)) hvalue hrest
          rw [slotCaptures?, List.append_assoc, hresult]
          exact ⟨_, rfl⟩

/-- **What the slots take, written back, is the argument.** -/
theorem write?_of_captures? {phrase : Phrase} {argument : Text} {groups : List Text}
    (h : phrase.captures? argument = some groups) :
    phrase.write? groups = some argument ∧ groups.length = phrase.slots.length
      ∧ ∀ group ∈ groups, IsGroup group := by
  obtain ⟨rest, hafter, hslots⟩ := Option.bind_eq_some_iff.mp h
  obtain ⟨hwrite, hgroups⟩ := writeSlots?_of_slotCaptures? hslots
  refine ⟨?_, hgroups⟩
  rw [write?, hwrite, Text.after?_eq_some_iff.mp hafter]
  rfl

/-- **Whatever can be written into the slots is an argument of the phrase.** -/
theorem exists_captures?_of_write? {phrase : Phrase} {argument : Text} {values : List Text}
    (hgroups : ∀ value ∈ values, IsGroup value) (h : phrase.write? values = some argument) :
    ∃ groups, phrase.captures? argument = some groups := by
  obtain ⟨rest, hwrite, rfl⟩ := Option.map_eq_some_iff.mp h
  obtain ⟨groups, hslots⟩ := exists_slotCaptures? hgroups hwrite
  refine ⟨groups, ?_⟩
  rw [captures?, Text.after?_eq_some_iff.mpr rfl]
  exact hslots

/-- A phrase takes one value for each slot. -/
lemma length_captures {phrase : Phrase} {argument : Text} {values : List Text}
    (h : phrase.captures? argument = some values) : values.length = phrase.slots.length :=
  (write?_of_captures? h).2.1

/-- There is something to write if there is a value for each slot. -/
lemma exists_write? {phrase : Phrase} {values : List Text}
    (h : values.length = phrase.slots.length) :
    ∃ argument, phrase.write? values = some argument := by
  obtain ⟨lead, slots⟩ := phrase
  have hslots : ∃ text, writeSlots? slots values = some text := by
    simp only at h
    induction slots generalizing values with
    | nil => exact ⟨[], by rw [writeSlots?]⟩
    | cons slot slots ih =>
        cases values with
        | nil => simp at h
        | cons value values =>
            obtain ⟨text, htext⟩ := ih (Nat.succ.inj h)
            exact ⟨_, by rw [writeSlots?, htext]; rfl⟩
  obtain ⟨text, htext⟩ := hslots
  exact ⟨lead ++ text, by rw [write?, htext]; rfl⟩

/-! ## Parts -/

/-- **A part of a phrase**: a fixed word, or a slot. -/
inductive Part where
  | word (text : Text)
  | slot
deriving Repr, DecidableEq

/-- The words behind a slot that is not the last one. -/
def innerWords (slot : Slot) : List Text :=
  (Text.words slot.tail).tail.dropLast

/-- The words behind the last slot. -/
def lastWords (slot : Slot) : List Text :=
  (Text.words slot.tail).tail

def slotParts : List Slot → List Part
  | [] => []
  | [slot] => .slot :: (lastWords slot).map .word
  | slot :: next :: rest => .slot :: ((innerWords slot).map .word ++ slotParts (next :: rest))

/-- The words in front of the first slot. -/
def leadWords (phrase : Phrase) : List Text :=
  if phrase.slots.isEmpty then Text.words phrase.lead else (Text.words phrase.lead).dropLast

/-- **The parts of a phrase.** -/
def parts (phrase : Phrase) : List Part :=
  phrase.leadWords.map .word ++ slotParts phrase.slots

/-- No blank stands in any of the words. -/
def areFree (list : List Text) : Bool :=
  list.all fun word => !word.contains (char ' ')

def isSpacedSlots : List Slot → Bool
  | [] => true
  | [slot] => areFree (lastWords slot) && slot.tail = Text.behind (lastWords slot)
  | slot :: next :: rest =>
    areFree (innerWords slot) && slot.tail = Text.behind (innerWords slot) ++ [char ' ']
      && isSpacedSlots (next :: rest)

/-- **A phrase is spaced** if single blanks separate its words and slots. -/
def isSpaced (phrase : Phrase) : Bool :=
  (phrase.slots.isEmpty
      || (areFree phrase.leadWords && phrase.lead = Text.before phrase.leadWords))
    && isSpacedSlots phrase.slots

/-- **The words of a phrase with values in its slots.** -/
def fill : List Part → List Text → List Text
  | [], _ => []
  | .word word :: parts, values => word :: fill parts values
  | .slot :: parts, values => Text.words (values.headD []) ++ fill parts values.tail

lemma notMem_of_areFree {list : List Text} (h : areFree list = true) :
    ∀ word ∈ list, char ' ' ∉ word := by
  simpa [areFree] using h

lemma fill_words_append (list : List Text) (parts : List Part) (values : List Text) :
    fill (list.map .word ++ parts) values = list ++ fill parts values := by
  induction list with
  | nil => rfl
  | cons word list ih => simp [fill, ih]

lemma words_writeSlots? : ∀ {slots : List Slot} {values : List Text} {text : Text}, slots ≠ [] →
    isSpacedSlots slots = true → writeSlots? slots values = some text →
    Text.words text = fill (slotParts slots) values
  | [], _, _, hne, _, _ => absurd rfl hne
  | _ :: _, [], _, _, _, h => by simp [writeSlots?] at h
  | [slot], value :: values, text, _, hspaced, h => by
      rw [isSpacedSlots, Bool.and_eq_true, decide_eq_true_eq] at hspaced
      obtain ⟨hfree, htail⟩ := hspaced
      have hfill := fill_words_append (lastWords slot) [] values
      obtain rfl : value ++ slot.tail = text := by simpa [writeSlots?] using h
      rw [List.append_nil] at hfill
      rw [htail, Text.words_append_behind (notMem_of_areFree hfree), slotParts, fill,
        List.headD_cons, List.tail_cons, hfill, fill, List.append_nil]
  | slot :: next :: rest, value :: values, text, _, hspaced, h => by
      rw [isSpacedSlots, Bool.and_eq_true, Bool.and_eq_true, decide_eq_true_eq] at hspaced
      obtain ⟨⟨hfree, htail⟩, hrest⟩ := hspaced
      rw [writeSlots?] at h
      obtain ⟨later, hlater, rfl⟩ := Option.map_eq_some_iff.mp h
      rw [htail, slotParts, fill, List.headD_cons, List.tail_cons, fill_words_append,
        ← words_writeSlots? (by simp) hrest hlater]
      simp only [List.append_assoc, List.singleton_append]
      rw [← List.append_assoc, Text.words_append_blank,
        Text.words_append_behind (notMem_of_areFree hfree), List.append_assoc]

/-- **The words of an argument** are the words of the phrase and those of the values. -/
theorem words_write? {phrase : Phrase} {values : List Text} {argument : Text}
    (hspaced : phrase.isSpaced = true) (h : phrase.write? values = some argument) :
    Text.words argument = fill phrase.parts values := by
  obtain ⟨rest, hrest, rfl⟩ := Option.map_eq_some_iff.mp h
  rw [isSpaced, Bool.and_eq_true, Bool.or_eq_true] at hspaced
  rw [parts, fill_words_append]
  cases hslots : phrase.slots with
  | nil =>
      rw [hslots] at hrest
      obtain rfl := Option.some.inj hrest
      simp [leadWords, hslots, slotParts, fill]
  | cons slot slots =>
      have hlead : areFree phrase.leadWords = true ∧ phrase.lead = Text.before phrase.leadWords := by
        simpa [hslots] using hspaced.1
      rw [← hslots]
      nth_rewrite 1 [hlead.2]
      rw [Text.words_before_append (notMem_of_areFree hlead.1),
        words_writeSlots? (by simp [hslots]) hspaced.2 hrest]

/-! ## Single words -/

lemma count_slotParts : ∀ slots : List Slot, (slotParts slots).count .slot = slots.length
  | [] => rfl
  | [slot] => by simp [slotParts, List.count_eq_zero]
  | slot :: next :: rest => by
      have ih := count_slotParts (next :: rest)
      simp [slotParts, List.count_eq_zero, ih]

lemma count_parts (phrase : Phrase) : phrase.parts.count .slot = phrase.slots.length := by
  simp [parts, count_slotParts, List.count_eq_zero]

lemma length_le_length_fill (parts : List Part) (values : List Text) :
    parts.length ≤ (fill parts values).length := by
  induction parts generalizing values with
  | nil => exact Nat.zero_le _
  | cons part parts ih =>
      cases part with
      | word word => simpa [fill] using ih values
      | slot =>
          have hword := List.length_pos_iff.mpr (Text.words_ne_nil (values.headD []))
          have hrest := ih values.tail
          simp only [fill, List.length_cons, List.length_append]
          omega

lemma length_fill_of_free {parts : List Part} {values : List Text}
    (hfree : ∀ value ∈ values, char ' ' ∉ value) : (fill parts values).length = parts.length := by
  induction parts generalizing values with
  | nil => rfl
  | cons part parts ih =>
      cases part with
      | word word => simpa [fill] using ih hfree
      | slot =>
          have hhead : char ' ' ∉ values.headD [] := by
            cases values with
            | nil => simp
            | cons value values => exact hfree value (by simp)
          have hrest := ih fun value hvalue => hfree value (List.mem_of_mem_tail hvalue)
          rw [fill, Text.words_of_free hhead, List.length_append, hrest, List.length_singleton,
            List.length_cons, Nat.add_comm]

/-- **Single words leave no choice**: as many words as parts give every slot one word. -/
lemma eq_of_fill_eq {parts : List Part} {groups values : List Text}
    (hgroups : groups.length = parts.count .slot) (hvalues : values.length = parts.count .slot)
    (hfree : ∀ value ∈ values, char ' ' ∉ value) (h : fill parts groups = fill parts values) :
    groups = values := by
  induction parts generalizing groups values with
  | nil => simp_all
  | cons part parts ih =>
      cases part with
      | word word =>
          simp only [List.count_cons_of_ne (show Part.word word ≠ Part.slot by simp)]
            at hgroups hvalues
          exact ih hgroups hvalues hfree (List.tail_eq_of_cons_eq h)
      | slot =>
          rw [List.count_cons_self] at hgroups hvalues
          obtain ⟨group, groups, rfl⟩ := List.exists_cons_of_length_eq_add_one hgroups
          obtain ⟨value, values, rfl⟩ := List.exists_cons_of_length_eq_add_one hvalues
          obtain ⟨hvalue, hrest⟩ := List.forall_mem_cons.mp hfree
          simp only [fill, List.headD_cons, List.tail_cons, Text.words_of_free hvalue] at h
          have hpositive := List.length_pos_iff.mpr (Text.words_ne_nil group)
          have hlength := congrArg List.length h
          have hleast := length_le_length_fill parts groups
          simp only [List.length_append, List.length_singleton, length_fill_of_free hrest] at hlength
          have hone : (Text.words group).length = [value].length := by
            simp only [List.length_singleton]
            omega
          obtain ⟨hword, hfill⟩ := List.append_inj h hone
          rw [Text.eq_of_words_eq hword,
            ih (Nat.succ.inj hgroups) (Nat.succ.inj hvalues) hrest hfill]

/-- **Values that are single words come back** from the argument that they are written into. -/
theorem captures?_eq_some_of_write? {phrase : Phrase} {values : List Text} {argument : Text}
    (hspaced : phrase.isSpaced = true) (hlength : values.length = phrase.slots.length)
    (hgroups : ∀ value ∈ values, IsGroup value) (hfree : ∀ value ∈ values, char ' ' ∉ value)
    (h : phrase.write? values = some argument) : phrase.captures? argument = some values := by
  obtain ⟨groups, hcaptures⟩ := exists_captures?_of_write? hgroups h
  obtain ⟨hwrite, hcount, -⟩ := write?_of_captures? hcaptures
  have hfill : fill phrase.parts groups = fill phrase.parts values :=
    (words_write? hspaced hwrite).symm.trans (words_write? hspaced h)
  rw [hcaptures, eq_of_fill_eq (by rw [count_parts, hcount]) (by rw [count_parts, hlength]) hfree
    hfill]

/-! ## Fitting -/

/-- **Items fit parts**: each fixed word meets an item that may be this word, and each slot takes
    one item or more. -/
def fits {α : Type} (mayBe : Text → α → Bool) : List Part → List α → Bool
  | [], items => items.isEmpty
  | _ :: _, [] => false
  | .word word :: parts, item :: items => mayBe word item && fits mayBe parts items
  | .slot :: parts, _ :: items => fits mayBe parts items || fits mayBe (.slot :: parts) items

/-- A slot takes any number of items, but at least one. -/
lemma fits_slot_append {α : Type} {mayBe : Text → α → Bool} {parts : List Part} {rest : List α}
    (h : fits mayBe parts rest = true) : ∀ {taken : List α}, taken ≠ [] →
    fits mayBe (.slot :: parts) (taken ++ rest) = true
  | [], hne => absurd rfl hne
  | [_], _ => by simp [fits, h]
  | _ :: item :: taken, _ => by
      rw [List.cons_append, fits, fits_slot_append h (by simp), Bool.or_true]

/-- The words of an argument fit the parts of its phrase. -/
lemma fits_fill (parts : List Part) (values : List Text) :
    fits (· == ·) parts (fill parts values) = true := by
  induction parts generalizing values with
  | nil => rfl
  | cons part parts ih =>
      cases part with
      | word word => simp [fill, fits, ih]
      | slot => exact fits_slot_append (ih values.tail) (Text.words_ne_nil _)

/-- What fits still fits if less is known about the items. -/
lemma fits_of_forall₂ {α β : Type} {mayBe : Text → α → Bool} {mayBe' : Text → β → Bool}
    {Describes : α → β → Prop}
    (hweaker : ∀ word x y, Describes x y → mayBe word x = true → mayBe' word y = true)
    {xs : List α} {ys : List β} (hitems : List.Forall₂ Describes xs ys) {parts : List Part}
    (h : fits mayBe parts xs = true) : fits mayBe' parts ys = true := by
  induction hitems generalizing parts with
  | nil =>
      cases parts with
      | nil => rfl
      | cons part parts => simp [fits] at h
  | @cons x y xs ys hxy hitems ih =>
      cases parts with
      | nil => simp [fits] at h
      | cons part parts =>
          cases part with
          | word word =>
              rw [fits, Bool.and_eq_true] at h ⊢
              exact ⟨hweaker word x y hxy h.1, ih h.2⟩
          | slot =>
              rw [fits, Bool.or_eq_true] at h ⊢
              exact h.imp ih ih

/-- **What a part may become** if the values of the slots are unknown single words other than
    `taboo`. -/
def Part.mayBe (taboo word : Text) : Part → Bool
  | .word other => word == other
  | .slot => word != taboo

/-- A part describes a word. -/
def Part.Describes (taboo word : Text) : Part → Prop
  | .word other => word = other
  | .slot => word ≠ taboo

lemma describes_fill {taboo : Text} (htaboo : taboo ≠ []) {parts : List Part} {values : List Text}
    (hvalues : ∀ value ∈ values, char ' ' ∉ value ∧ value ≠ taboo) :
    List.Forall₂ (fun word part => Part.Describes taboo word part) (fill parts values) parts := by
  induction parts generalizing values with
  | nil => exact .nil
  | cons part parts ih =>
      cases part with
      | word word => exact .cons rfl (ih hvalues)
      | slot =>
          have hhead : char ' ' ∉ values.headD [] ∧ values.headD [] ≠ taboo := by
            cases values with
            | nil => exact ⟨by simp, htaboo.symm⟩
            | cons value values => exact hvalues value (by simp)
          rw [fill, Text.words_of_free hhead.1]
          exact .cons hhead.2 (ih fun value hvalue => hvalues value (List.mem_of_mem_tail hvalue))

/-- **Two phrases that accept one argument** have parts that fit, if the values of the second are
    single words other than `taboo`. -/
theorem fits_parts_of_accepts {first second : Phrase} {taboo argument : Text}
    {groups values : List Text} (htaboo : taboo ≠ []) (hfirst : first.isSpaced = true)
    (hsecond : second.isSpaced = true) (hcaptures : first.captures? argument = some groups)
    (hwrite : second.write? values = some argument)
    (hvalues : ∀ value ∈ values, char ' ' ∉ value ∧ value ≠ taboo) :
    fits (Part.mayBe taboo) first.parts second.parts = true := by
  have hfits : fits (· == ·) first.parts (fill second.parts values) = true := by
    rw [← words_write? hsecond hwrite, words_write? hfirst (write?_of_captures? hcaptures).1]
    exact fits_fill first.parts groups
  refine fits_of_forall₂ ?_ (describes_fill htaboo hvalues) hfits
  intro word item part hdescribes hsame
  obtain rfl : word = item := by simpa using hsame
  cases part with
  | word other => simpa [Part.mayBe, Part.Describes] using hdescribes
  | slot => simpa [Part.mayBe, Part.Describes] using hdescribes

end Phrase

end ScenarioScript
