import ScenarioScript.Placeholder.Registry
import ScenarioScript.Proofs.Placeholder.Occurrences

/-!
# Sentences

A **sentence** is a statement whose brackets all belong to placeholders: prose without brackets,
then a placeholder, then prose again, and so on.  A placeholder's argument is on one line and has
no `<`, but it may hold `>`.

* `Placeholder`, `Sentence` — the grammar; the conditions are part of the types.
* `Sentence.write` — a sentence with every placeholder written in a given way.
* `Sentence.layout` — the placeholders with the offsets at which they stand.
* `Placeholder.argumentAt?_text_append` — a placeholder is read by its own family and by no other,
  because no family's mark begins with another's (`not_mark_prefix`).
* `Sentence.occurrences_tag`, `Sentence.occurrences_any` — **what the scans find**: that of a family
  finds its own placeholders and no others, that for tokens finds them all.
-/

namespace ScenarioScript

/-! ## The grammar -/

/-- **A placeholder on its own.** -/
structure Placeholder where
  tag : Tag
  argument : Text
  admitted : tag.shape.Admits argument
  flat : char '<' ∉ argument

namespace Placeholder

def text (p : Placeholder) : Text :=
  p.tag.shape.token p.argument

/-- What stands between its brackets. -/
def inner (p : Placeholder) : Text :=
  p.tag.shape.opening.tail ++ p.argument

end Placeholder

/-- Text without brackets. -/
def IsProse (words : Text) : Prop :=
  char '<' ∉ words ∧ char '>' ∉ words

instance (words : Text) : Decidable (IsProse words) :=
  inferInstanceAs (Decidable (_ ∧ _))

/-- **A sentence**: prose, with placeholders between its pieces. -/
inductive Sentence where
  | last (words : Text) (prose : IsProse words)
  | step (words : Text) (prose : IsProse words) (placeholder : Placeholder) (rest : Sentence)

namespace Sentence

/-- **A sentence with every placeholder written as `code` says.** -/
def write (code : Placeholder → Text) : Sentence → Text
  | last words _ => words
  | step words _ p rest => words ++ code p ++ rest.write code

/-- The statement that a sentence is. -/
def text (sentence : Sentence) : Text :=
  sentence.write Placeholder.text

def placeholders : Sentence → List Placeholder
  | last _ _ => []
  | step _ _ p rest => p :: rest.placeholders

/-- **The placeholders with their offsets**, for a sentence that stands at `offset`. -/
def layout : (offset : Nat) → Sentence → List (Nat × Placeholder)
  | _, last _ _ => []
  | offset, step words _ p rest =>
      (offset + words.length, p) :: rest.layout (offset + words.length + p.text.length)

end Sentence

/-! ## Reading a placeholder

The marks of the families are such that none begins with another.  So what a placeholder begins
with decides its family, whatever its argument is.
-/

/-- No family's mark is the beginning of another's. -/
lemma not_mark_prefix {tag tag' : Tag} (h : tag ≠ tag') :
    ¬ tag.shape.mark <+: tag'.shape.mark := by
  revert h
  cases tag <;> cases tag' <;> decide

/-- Two families whose placeholders can start the same text are the same. -/
lemma tag_eq_of_mark_prefix {tag tag' : Tag} {text : Text} (h : tag.shape.mark <+: text)
    (h' : tag'.shape.mark <+: text) : tag = tag' := by
  by_contra hne
  rcases List.prefix_or_prefix_of_prefix h h' with hpre | hpre
  · exact not_mark_prefix hne hpre
  · exact not_mark_prefix (Ne.symm hne) hpre

namespace Placeholder

lemma mark_prefix_text (p : Placeholder) : p.tag.shape.mark <+: p.text :=
  Shape.mark_prefix_token p.admitted

/-- **A placeholder is read by its own family and by no other.** -/
lemma argumentAt?_text_append (p : Placeholder) (tag : Tag) {rest : Text}
    (hclear : Shape.isClear rest = true) :
    tag.shape.argumentAt? (p.text ++ rest) = if tag = p.tag then some p.argument else none := by
  split
  · rename_i htag
    subst htag
    have hadmitted := p.admitted
    rw [text]
    cases hshape : p.tag.shape with
    | exactly word =>
        obtain rfl : p.argument = word := by simpa [hshape, Shape.Admits] using hadmitted
        refine Option.map_eq_some_iff.mpr ⟨rest, Text.after?_eq_some_iff.mpr ?_, rfl⟩
        simp [Shape.token, Shape.opening]
    | leading lead =>
        rw [hshape] at hadmitted
        refine Option.bind_eq_some_iff.mpr
          ⟨p.argument ++ char '>' :: rest, Text.after?_eq_some_iff.mpr ?_, ?_⟩
        · simp [Shape.token, Shape.opening]
        · exact Shape.readArgumentOne?_append hadmitted.1 p.flat hadmitted.2 hclear
  · rename_i htag
    refine Shape.argumentAt?_eq_none fun hprefix => htag ?_
    have hown : p.tag.shape.mark <+: p.text ++ rest :=
      p.mark_prefix_text.trans (List.prefix_append _ _)
    exact tag_eq_of_mark_prefix hprefix hown

/-- What stands between the brackets is a flat text on one line. -/
lemma inner_free (p : Placeholder) : p.inner ≠ [] ∧ char '<' ∉ p.inner ∧ char '\n' ∉ p.inner := by
  obtain ⟨tag, argument, admitted, flat⟩ := p
  have hopening : tag ≠ .finish → tag.shape.opening.tail ≠ []
      ∧ char '<' ∉ tag.shape.opening.tail ∧ char '\n' ∉ tag.shape.opening.tail := by
    cases tag <;> decide
  by_cases htag : tag = .finish
  · subst htag
    obtain rfl : argument = Tag.finish.word := admitted
    simp only [inner]
    decide
  · obtain ⟨hne, hopen, hline⟩ := hopening htag
    have hargument : char '\n' ∉ argument := by
      cases tag with
      | finish => exact absurd rfl htag
      | _ => exact admitted.2
    simp only [inner, List.mem_append, not_or]
    exact ⟨by simp [hne], ⟨hopen, flat⟩, hline, hargument⟩

lemma text_eq (p : Placeholder) : p.text = char '<' :: (p.inner ++ [char '>']) := by
  rw [text, inner, Shape.token]
  cases p.tag.shape <;> simp [Shape.opening]

lemma token_inner (p : Placeholder) : Shape.any.token p.inner = p.text := by
  rw [text_eq]
  rfl

/-- A placeholder is one token, whatever its family. -/
lemma any_argumentAt?_text_append (p : Placeholder) {rest : Text}
    (hclear : Shape.isClear rest = true) :
    Shape.any.argumentAt? (p.text ++ rest) = some p.inner := by
  obtain ⟨hne, hopen, hline⟩ := p.inner_free
  refine Option.bind_eq_some_iff.mpr
    ⟨p.inner ++ char '>' :: rest, Text.after?_eq_some_iff.mpr (by simp [text_eq]), ?_⟩
  exact Shape.readArgumentOne?_append hne hopen hline hclear

end Placeholder

/-! ## What the scans find in a sentence -/

namespace Sentence

/-- An occurrence in the place of a placeholder. -/
def occurrenceAt (entry : Nat × Placeholder) (argument : Text) : Occurrence :=
  ⟨entry.1, entry.1 + entry.2.text.length, argument⟩

/-- What the scan of a family finds in the place of a placeholder. -/
def occurrenceOf? (tag : Tag) (entry : Nat × Placeholder) : Option Occurrence :=
  if tag = entry.2.tag then some (occurrenceAt entry entry.2.argument) else none

lemma placeholders_eq_map_layout : ∀ (offset : Nat) (sentence : Sentence),
    sentence.placeholders = (sentence.layout offset).map (·.2)
  | _, last _ _ => rfl
  | _, step _ _ _ rest => by
      rw [placeholders, layout, List.map_cons, ← placeholders_eq_map_layout]

/-- Nothing in a sentence obstructs the look ahead from in front of it. -/
lemma isClear_text : ∀ sentence : Sentence, Shape.isClear sentence.text = true
  | last words prose => by
      have h := Shape.isClear_append_of_free [] prose.1 prose.2
      rw [List.append_nil] at h
      rw [text, write, h]
      rfl
  | step words prose p rest => by
      rw [text, write, List.append_assoc, Shape.isClear_append_of_free _ prose.1 prose.2,
        Placeholder.text_eq]
      rfl

/-- **The candidates of a sentence**, for a shape that reads a placeholder as `argument?` says. -/
lemma candidatesFrom_text {shape : Shape} {argument? : Placeholder → Option Text}
    (hread : ∀ (p : Placeholder) (rest : Text), Shape.isClear rest = true →
      shape.argumentAt? (p.text ++ rest) = argument? p)
    (htoken : ∀ p argument, argument? p = some argument → shape.token argument = p.text) :
    ∀ (offset : Nat) (sentence : Sentence),
      shape.candidatesFrom offset sentence.text
        = (sentence.layout offset).filterMap fun entry =>
            (argument? entry.2).map (occurrenceAt entry)
  | offset, last words prose => by
      have h := Shape.candidatesFrom_append_of_free shape offset [] prose.1
      rw [List.append_nil] at h
      rw [text, write, h]
      rfl
  | offset, step words prose p rest => by
      have hinside : char '<' ∉ p.inner ++ [char '>'] := by simpa using p.inner_free.2.1
      have ih := candidatesFrom_text hread htoken (offset + words.length + p.text.length) rest
      have hbehind : shape.candidatesFrom (offset + words.length + 1)
          ((p.inner ++ [char '>']) ++ rest.text)
            = shape.candidatesFrom (offset + words.length + p.text.length) rest.text := by
        rw [Shape.candidatesFrom_append_of_free shape _ _ hinside, p.text_eq, List.length_cons]
        congr 1
        omega
      have hhead := hread p rest.text rest.isClear_text
      rw [p.text_eq, List.cons_append] at hhead
      show shape.candidatesFrom offset (words ++ p.text ++ rest.text) = _
      rw [List.append_assoc, Shape.candidatesFrom_append_of_free shape _ _ prose.1, layout]
      nth_rewrite 1 [p.text_eq]
      rw [List.cons_append, Shape.candidatesFrom, hhead, hbehind, ih]
      cases hargument : argument? p with
      | none => simp [hargument]
      | some argument => simp [hargument, htoken p argument hargument, occurrenceAt]

lemma le_of_mem_layout {entry : Nat × Placeholder} : ∀ {offset : Nat} {sentence : Sentence},
    entry ∈ sentence.layout offset → offset ≤ entry.1
  | _, last _ _, h => by simp [layout] at h
  | offset, step words _ p rest, h => by
      rcases List.mem_cons.mp h with rfl | h
      · show offset ≤ offset + words.length
        omega
      · have hle := le_of_mem_layout h
        omega

/-- The placeholders of a sentence stand one behind the other. -/
lemma pairwise_layout : ∀ (offset : Nat) (sentence : Sentence),
    (sentence.layout offset).Pairwise fun a b => a.1 + a.2.text.length ≤ b.1
  | _, last _ _ => List.Pairwise.nil
  | _, step _ _ _ rest =>
      List.pairwise_cons.mpr ⟨fun _ h => le_of_mem_layout h, pairwise_layout _ rest⟩

/-- **The occurrences in a sentence**, for a shape that reads a placeholder as `argument?` says. -/
lemma occurrences_text {shape : Shape} {argument? : Placeholder → Option Text}
    (hread : ∀ (p : Placeholder) (rest : Text), Shape.isClear rest = true →
      shape.argumentAt? (p.text ++ rest) = argument? p)
    (htoken : ∀ p argument, argument? p = some argument → shape.token argument = p.text)
    (sentence : Sentence) :
    shape.occurrences sentence.text
      = (sentence.layout 0).filterMap fun entry =>
          (argument? entry.2).map (occurrenceAt entry) := by
  rw [Shape.occurrences, Shape.candidates, candidatesFrom_text hread htoken]
  -- the sweep drops nothing, because the candidates are disjoint
  refine Shape.sweep_eq_self ?_ fun _ _ => Nat.zero_le _
  rw [List.pairwise_filterMap]
  refine (pairwise_layout 0 sentence).imp fun {a b} hle o ho o' ho' => ?_
  obtain ⟨argument, -, rfl⟩ := Option.map_eq_some_iff.mp ho
  obtain ⟨argument', -, rfl⟩ := Option.map_eq_some_iff.mp ho'
  exact hle

/-- **The scan of a family finds its own placeholders.** -/
lemma occurrences_tag (tag : Tag) (sentence : Sentence) :
    tag.shape.occurrences sentence.text = (sentence.layout 0).filterMap (occurrenceOf? tag) := by
  rw [occurrences_text (fun p _ hclear => p.argumentAt?_text_append tag hclear)]
  · refine List.filterMap_congr fun entry _ => ?_
    rw [occurrenceOf?]
    split <;> rfl
  · intro p argument h
    split at h
    · rename_i htag
      obtain rfl : p.argument = argument := by simpa using h
      rw [htag, Placeholder.text]
    · exact absurd h (by simp)

/-- **The scan for tokens finds all placeholders.** -/
lemma occurrences_any (sentence : Sentence) :
    Shape.any.occurrences sentence.text
      = (sentence.layout 0).map fun entry => occurrenceAt entry entry.2.inner := by
  rw [occurrences_text (fun p _ hclear => p.any_argumentAt?_text_append hclear)]
  · exact congrFun List.filterMap_eq_map (sentence.layout 0)
  · intro p argument h
    obtain rfl : p.inner = argument := by simpa using h
    exact p.token_inner

end Sentence

end ScenarioScript
