import Mathlib.Data.List.Basic
import ScenarioScript.Proofs.Placeholder.Reading

/-!
# The placeholders a scan meets

A scan lists the candidates of a text and sweeps over them.  This file says which candidates there
are and which of them the sweep keeps.

* `mem_candidates_iff` — a candidate is a place of the text at which a placeholder can be read.
  `pairwise_candidates` — they come in the order of their starts, no two at the same place.
* `pairwise_occurrences` — what the sweep keeps is disjoint and goes from left to right.
* `exists_mem_occurrences` — a candidate that the sweep drops starts inside one that it keeps.
* `mem_candidates_of_accepts` — **a complete token read out of its text and matched on its own**
  is found at the same place, with the same end, by the scan for the shape it matches.
-/

namespace ScenarioScript

namespace Shape

/-! ## Candidates -/

/-- **The mark of a shape**: the fixed text that every placeholder of this shape begins with. -/
def mark : Shape → Text
  | .exactly word => char '<' :: word ++ [char '>']
  | .leading lead => char '<' :: lead

/-- Nothing is read where the mark does not stand. -/
lemma argumentAt?_eq_none {shape : Shape} {text : Text} (h : ¬ shape.mark <+: text) :
    shape.argumentAt? text = none := by
  have hafter : Text.after? shape.mark text = none := by
    cases hrest : Text.after? shape.mark text with
    | none => rfl
    | some rest => exact absurd ⟨rest, (Text.after?_eq_some_iff.mp hrest).symm⟩ h
  cases shape with
  | exactly word => exact Option.map_eq_none_iff.mpr hafter
  | leading lead =>
      refine Option.bind_eq_none_iff.mpr fun rest hrest => ?_
      exact absurd (hafter.symm.trans hrest) (by simp)

lemma exists_mark_eq_cons (shape : Shape) : ∃ rest, shape.mark = char '<' :: rest := by
  cases shape with
  | exactly word => exact ⟨word ++ [char '>'], rfl⟩
  | leading lead => exact ⟨lead, rfl⟩

lemma argumentAt?_cons_of_ne {shape : Shape} {c : Letter} {rest : Text} (h : c ≠ char '<') :
    shape.argumentAt? (c :: rest) = none := by
  obtain ⟨tail, hmark⟩ := shape.exists_mark_eq_cons
  refine argumentAt?_eq_none fun hprefix => h ?_
  rw [hmark, List.cons_prefix_cons] at hprefix
  exact hprefix.1.symm

lemma argumentAt?_nil (shape : Shape) : shape.argumentAt? [] = none := by
  obtain ⟨tail, hmark⟩ := shape.exists_mark_eq_cons
  refine argumentAt?_eq_none fun hprefix => ?_
  rw [hmark] at hprefix
  exact absurd (List.prefix_nil.mp hprefix) (by simp)

/-- The candidates of a text that stands at some offset. -/
lemma mem_candidatesFrom_iff {shape : Shape} {o : Occurrence} : ∀ {text : Text} {offset : Nat},
    o ∈ shape.candidatesFrom offset text
      ↔ offset ≤ o.start ∧ shape.argumentAt? (text.drop (o.start - offset)) = some o.argument
          ∧ o.stop = o.start + (shape.token o.argument).length
  | [], offset => by simp [candidatesFrom, argumentAt?_nil]
  | c :: rest, offset => by
      -- the candidates behind the first character are those of the rest, one further on
      have hrest : o ∈ shape.candidatesFrom (offset + 1) rest
          ↔ offset < o.start
            ∧ shape.argumentAt? ((c :: rest).drop (o.start - offset)) = some o.argument
            ∧ o.stop = o.start + (shape.token o.argument).length := by
        rw [mem_candidatesFrom_iff]
        constructor
        · rintro ⟨hle, h⟩
          rw [show o.start - offset = o.start - (offset + 1) + 1 by omega]
          exact ⟨by omega, by simpa using h⟩
        · rintro ⟨hlt, h⟩
          rw [show o.start - offset = o.start - (offset + 1) + 1 by omega] at h
          exact ⟨by omega, by simpa using h⟩
      cases hread : shape.argumentAt? (c :: rest) with
      | none =>
          rw [candidatesFrom, hread, hrest]
          refine ⟨fun h => ⟨by omega, h.2⟩, fun h => ⟨?_, h.2⟩⟩
          refine lt_of_le_of_ne h.1 fun heq => ?_
          rw [heq, Nat.sub_self, List.drop_zero, hread] at h
          exact absurd h.2.1 (by simp)
      | some argument =>
          rw [candidatesFrom, hread, List.mem_cons, hrest]
          constructor
          · rintro (rfl | h)
            · exact ⟨le_refl _, by simpa using hread, rfl⟩
            · exact ⟨by omega, h.2⟩
          · rintro ⟨hle, hargument, hstop⟩
            rcases Nat.lt_or_eq_of_le hle with hlt | heq
            · exact Or.inr ⟨hlt, hargument, hstop⟩
            · rw [← heq, Nat.sub_self, List.drop_zero, hread, Option.some.injEq] at hargument
              refine Or.inl ?_
              obtain ⟨start, stop, inner⟩ := o
              simp_all

/-- **The candidates of a text** are the places at which a placeholder can be read. -/
lemma mem_candidates_iff {shape : Shape} {text : Text} {o : Occurrence} :
    o ∈ shape.candidates text
      ↔ shape.argumentAt? (text.drop o.start) = some o.argument
          ∧ o.stop = o.start + (shape.token o.argument).length := by
  simp [candidates, mem_candidatesFrom_iff]

lemma pairwise_candidatesFrom (shape : Shape) : ∀ (offset : Nat) (text : Text),
    (shape.candidatesFrom offset text).Pairwise fun a b => a.start < b.start
  | _, [] => List.Pairwise.nil
  | offset, c :: rest => by
      have ih := pairwise_candidatesFrom shape (offset + 1) rest
      rw [candidatesFrom]
      split
      · refine List.pairwise_cons.mpr ⟨fun o ho => ?_, ih⟩
        have hle : offset + 1 ≤ o.start := (mem_candidatesFrom_iff.mp ho).1
        exact hle
      · exact ih

/-- Candidates come in the order of their starts. -/
lemma pairwise_candidates (shape : Shape) (text : Text) :
    (shape.candidates text).Pairwise fun a b => a.start < b.start :=
  pairwise_candidatesFrom shape 0 text

/-- Text without `<` has no candidates and only shifts those behind it. -/
lemma candidatesFrom_append_of_free (shape : Shape) : ∀ {before : Text} (offset : Nat)
    (rest : Text), char '<' ∉ before →
    shape.candidatesFrom offset (before ++ rest)
      = shape.candidatesFrom (offset + before.length) rest
  | [], _, _, _ => rfl
  | c :: before, offset, rest, hfree => by
      simp only [List.mem_cons, not_or] at hfree
      rw [List.cons_append, candidatesFrom, argumentAt?_cons_of_ne (Ne.symm hfree.1)]
      simp only
      rw [candidatesFrom_append_of_free shape (offset + 1) rest hfree.2, List.length_cons,
        Nat.add_assoc, Nat.add_comm 1]

/-- A placeholder has at least its two brackets. -/
lemma two_le_length_token (shape : Shape) (argument : Text) :
    2 ≤ (shape.token argument).length := by
  cases shape with
  | exactly word => simp [token, opening]
  | leading lead => simp [token, opening]; omega

/-- **The candidates of a shape with a lead**, by offsets. -/
lemma mem_candidates_leading_iff {lead text : Text} {o : Occurrence} :
    o ∈ (leading lead).candidates text
      ↔ ∃ close, Spans lead text o.start close ∧ o.stop = close + 1
          ∧ o.argument = (text.take close).drop (o.start + lead.length + 1) := by
  have hlength : ∀ {close : Nat}, Spans lead text o.start close →
      ((text.take close).drop (o.start + lead.length + 1)).length
        = close - (o.start + lead.length + 1) := by
    intro close hspans
    have hbracket : close < text.length :=
      (List.getElem?_eq_some_iff.mp hspans.reaches.closes.1).1
    rw [List.length_drop, List.length_take, Nat.min_eq_left (Nat.le_of_lt hbracket)]
  have hstop : ∀ {close : Nat}, Spans lead text o.start close →
      o.start + ((leading lead).token ((text.take close).drop (o.start + lead.length + 1))).length
        = close + 1 := by
    intro close hspans
    have hle := hspans.reaches.least_le
    simp only [token, opening, List.length_append, List.length_cons, List.length_nil,
      hlength hspans]
    omega
  rw [mem_candidates_iff, argumentAt?_leading_iff]
  constructor
  · rintro ⟨⟨close, hspans, hargument⟩, hlen⟩
    rw [hargument, hstop hspans] at hlen
    exact ⟨close, hspans, hlen, hargument⟩
  · rintro ⟨close, hspans, hlen, hargument⟩
    rw [hargument, hstop hspans]
    exact ⟨⟨close, hspans, rfl⟩, hlen⟩

/-! ## The sweep -/

lemma sweep_sublist : ∀ (cursor : Nat) (l : List Occurrence), (sweep cursor l).Sublist l
  | _, [] => List.Sublist.refl []
  | cursor, o :: rest => by
      rw [sweep]
      split
      · exact (sweep_sublist cursor rest).cons o
      · exact (sweep_sublist o.stop rest).cons_cons o

lemma le_start_of_mem_sweep {o : Occurrence} : ∀ {cursor : Nat} {l : List Occurrence},
    (∀ p ∈ l, p.start ≤ p.stop) → o ∈ sweep cursor l → cursor ≤ o.start
  | _, [], _, h => by simp [sweep] at h
  | cursor, p :: rest, hproper, h => by
      have hrest : ∀ q ∈ rest, q.start ≤ q.stop := fun q hq => hproper q (by simp [hq])
      rw [sweep] at h
      split at h
      · exact le_start_of_mem_sweep hrest h
      · rcases List.mem_cons.mp h with rfl | h
        · omega
        · have hlater := le_start_of_mem_sweep hrest h
          have hp := hproper p (by simp)
          omega

lemma pairwise_sweep : ∀ (cursor : Nat) (l : List Occurrence), (∀ p ∈ l, p.start ≤ p.stop) →
    (sweep cursor l).Pairwise fun a b => a.stop ≤ b.start
  | _, [], _ => List.Pairwise.nil
  | cursor, p :: rest, hproper => by
      have hrest : ∀ q ∈ rest, q.start ≤ q.stop := fun q hq => hproper q (by simp [hq])
      rw [sweep]
      split
      · exact pairwise_sweep cursor rest hrest
      · exact List.pairwise_cons.mpr
          ⟨fun q hq => le_start_of_mem_sweep hrest hq, pairwise_sweep p.stop rest hrest⟩

/-- A candidate that the sweep drops starts inside one that it keeps. -/
lemma exists_mem_sweep {o : Occurrence} : ∀ {cursor : Nat} {l : List Occurrence},
    l.Pairwise (fun a b => a.start < b.start) → o ∈ l → cursor ≤ o.start →
    ∃ p ∈ sweep cursor l, p = o ∨ (p.start < o.start ∧ o.start < p.stop)
  | _, [], _, h, _ => by simp at h
  | cursor, p :: rest, hsorted, h, hcursor => by
      obtain ⟨hhead, htail⟩ := List.pairwise_cons.mp hsorted
      rw [sweep]
      split
      · rename_i hskip
        rcases List.mem_cons.mp h with rfl | h
        · omega
        · exact exists_mem_sweep htail h hcursor
      · rcases List.mem_cons.mp h with rfl | h
        · exact ⟨o, by simp, Or.inl rfl⟩
        · have hlt := hhead o h
          by_cases hinside : o.start < p.stop
          · exact ⟨p, by simp, Or.inr ⟨hlt, hinside⟩⟩
          · obtain ⟨q, hq, hcase⟩ := exists_mem_sweep htail h (Nat.le_of_not_lt hinside)
            exact ⟨q, List.mem_cons_of_mem p hq, hcase⟩

/-- Candidates that are disjoint already are all kept. -/
lemma sweep_eq_self : ∀ {cursor : Nat} {l : List Occurrence},
    l.Pairwise (fun a b => a.stop ≤ b.start) → (∀ o ∈ l, cursor ≤ o.start) → sweep cursor l = l
  | _, [], _, _ => rfl
  | cursor, o :: rest, hsorted, hcursor => by
      obtain ⟨hhead, htail⟩ := List.pairwise_cons.mp hsorted
      have ho : cursor ≤ o.start := hcursor o (by simp)
      rw [sweep, if_neg (by omega), sweep_eq_self htail hhead]

/-! ## Occurrences -/

lemma mem_candidates_of_mem_occurrences {shape : Shape} {text : Text} {o : Occurrence}
    (h : o ∈ shape.occurrences text) : o ∈ shape.candidates text :=
  (sweep_sublist 0 _).subset h

lemma start_lt_stop {shape : Shape} {text : Text} {o : Occurrence}
    (h : o ∈ shape.candidates text) : o.start + 2 ≤ o.stop := by
  have hstop := (mem_candidates_iff.mp h).2
  have hlength := two_le_length_token shape o.argument
  omega

/-- **Occurrences are disjoint** and go from left to right. -/
lemma pairwise_occurrences (shape : Shape) (text : Text) :
    (shape.occurrences text).Pairwise fun a b => a.stop ≤ b.start := by
  refine pairwise_sweep 0 _ fun p hp => ?_
  have h := start_lt_stop hp
  omega

/-- Occurrences that share a character are the same. -/
lemma eq_of_overlap {shape : Shape} {text : Text} {a b : Occurrence}
    (ha : a ∈ shape.occurrences text) (hb : b ∈ shape.occurrences text)
    (hab : a.start < b.stop) (hba : b.start < a.stop) : a = b := by
  have hpairs := pairwise_occurrences shape text
  refine List.Pairwise.forall_of_forall_of_flip
    (R := fun x y => x.start < y.stop → y.start < x.stop → x = y) ?_ ?_ ?_ ha hb hab hba
  · exact fun _ _ _ _ => rfl
  · exact hpairs.imp fun hsep _ hlt => absurd hsep (by omega)
  · exact hpairs.imp fun hsep hlt _ => absurd hsep (by omega)

/-- A candidate that is no occurrence starts inside one. -/
lemma exists_mem_occurrences {shape : Shape} {text : Text} {o : Occurrence}
    (h : o ∈ shape.candidates text) :
    ∃ p ∈ shape.occurrences text, p = o ∨ (p.start < o.start ∧ o.start < p.stop) :=
  exists_mem_sweep (pairwise_candidates shape text) h (Nat.zero_le _)

/-! ## Tokens on their own and in their text -/

/-- **The arguments a shape admits** in a complete token. -/
def Admits : Shape → Text → Prop
  | .exactly word, argument => argument = word
  | .leading _, argument => argument ≠ [] ∧ char '\n' ∉ argument

instance : (shape : Shape) → (argument : Text) → Decidable (shape.Admits argument)
  | .exactly word, argument => inferInstanceAs (Decidable (argument = word))
  | .leading _, argument => inferInstanceAs (Decidable (argument ≠ [] ∧ char '\n' ∉ argument))

/-- A placeholder begins with the mark of its shape. -/
lemma mark_prefix_token {shape : Shape} {argument : Text} (h : shape.Admits argument) :
    shape.mark <+: shape.token argument := by
  cases shape with
  | exactly word =>
      obtain rfl : argument = word := h
      simp [mark, token, opening]
  | leading lead => exact ⟨argument ++ [char '>'], by simp [mark, token, opening]⟩

lemma closedArgument?_eq_some_iff {text argument : Text} :
    closedArgument? text = some argument
      ↔ text = argument ++ [char '>'] ∧ argument ≠ [] ∧ char '\n' ∉ argument := by
  rw [closedArgument?]
  constructor
  · intro h
    split at h
    · rename_i hclosed
      obtain rfl : text.dropLast = argument := by simpa using h
      simp only [Bool.and_eq_true, decide_eq_true_eq] at hclosed
      refine ⟨?_, by simpa [isArgument] using hclosed.2⟩
      exact (List.dropLast_append_getLast? (char '>') hclosed.1).symm
    · exact absurd h (by simp)
  · rintro ⟨rfl, hargument⟩
    rw [if_pos (by simpa [isArgument] using hargument)]
    simp

/-- **A token matched on its own** is the shape's placeholder with an admitted argument. -/
lemma argument?_eq_some_iff {shape : Shape} {token argument : Text} :
    shape.argument? token = some argument
      ↔ token = shape.token argument ∧ shape.Admits argument := by
  cases shape with
  | exactly word =>
      simp only [argument?, Shape.token, opening, Admits]
      constructor
      · intro h
        split at h
        · rename_i htoken
          obtain rfl : word = argument := by simpa using h
          exact ⟨by simpa using htoken, rfl⟩
        · exact absurd h (by simp)
      · rintro ⟨htoken, rfl⟩
        rw [if_pos (by simpa using htoken)]
  | leading lead =>
      simp only [argument?, Shape.token, opening, Admits, Option.bind_eq_some_iff,
        Text.after?_eq_some_iff, closedArgument?_eq_some_iff]
      constructor
      · rintro ⟨rest, rfl, rfl, hargument⟩
        exact ⟨by simp, hargument⟩
      · rintro ⟨rfl, hargument⟩
        exact ⟨argument ++ [char '>'], by simp, rfl, hargument⟩

/-- A placeholder that is read stands at the start of the text. -/
lemma token_prefix_of_argumentAt? {shape : Shape} {text argument : Text}
    (h : shape.argumentAt? text = some argument) : shape.token argument <+: text := by
  cases shape with
  | exactly word =>
      obtain ⟨rest, hrest, rfl⟩ := Option.map_eq_some_iff.mp h
      exact ⟨rest, by simpa [token, opening] using (Text.after?_eq_some_iff.mp hrest).symm⟩
  | leading lead =>
      obtain ⟨rest, hrest, hread⟩ := Option.bind_eq_some_iff.mp h
      obtain ⟨close, hreach, rfl⟩ := readArgumentOne?_iff.mp hread
      have htake : rest.take close ++ [char '>'] = rest.take (close + 1) := by
        rw [List.take_add_one, hreach.closes.1, Option.toList_some]
      refine ⟨rest.drop (close + 1), ?_⟩
      rw [Text.after?_eq_some_iff.mp hrest, token, opening, List.append_assoc _ (rest.take close),
        htake, List.append_assoc, List.take_append_drop]

/-- **A token that a shape accepts on its own** is a candidate of that shape in its text, with the
    same extent: cutting the token out of the text does not move its end. -/
lemma mem_candidates_of_accepts {shape : Shape} {text argument : Text} {t : Occurrence}
    (ht : t ∈ any.candidates text)
    (haccepts : shape.argument? (any.token t.argument) = some argument) :
    ⟨t.start, t.stop, argument⟩ ∈ shape.candidates text := by
  obtain ⟨htoken, hadmits⟩ := argument?_eq_some_iff.mp haccepts
  obtain ⟨hread, hstop⟩ := mem_candidates_iff.mp ht
  have hprefix : shape.token argument <+: text.drop t.start :=
    htoken ▸ token_prefix_of_argumentAt? hread
  rw [htoken] at hstop
  cases shape with
  | exactly word =>
      obtain rfl : argument = word := hadmits
      obtain ⟨rest, hrest⟩ := hprefix
      refine mem_candidates_iff.mpr ⟨Option.map_eq_some_iff.mpr ⟨rest, ?_, rfl⟩, hstop⟩
      exact Text.after?_eq_some_iff.mpr (by simpa [token, opening] using hrest.symm)
  | leading lead =>
      have hinner : t.argument = lead ++ argument := by
        have hclosed : t.argument ++ [char '>'] = (lead ++ argument) ++ [char '>'] := by
          simpa [any, token, opening] using htoken
        exact List.append_cancel_right hclosed
      obtain ⟨close, hspans, hclose, hargument⟩ := mem_candidates_leading_iff.mp ht
      have hbracket : close < text.length :=
        (List.getElem?_eq_some_iff.mp hspans.reaches.closes.1).1
      have hlength : lead.length + argument.length = close - (t.start + 1) := by
        have h := congrArg List.length (hinner.symm.trans hargument)
        simpa [List.length_take, Nat.min_eq_left (Nat.le_of_lt hbracket)] using h
      have hpositive : 0 < argument.length := List.length_pos_iff.mpr hadmits.1
      have hopens : char '<' :: lead <+: text.drop t.start :=
        List.IsPrefix.trans ⟨argument ++ [char '>'], by simp [token, opening]⟩ hprefix
      refine mem_candidates_leading_iff.mpr
        ⟨close, hspans.of_any hopens (by omega), hclose, ?_⟩
      have hdrop := congrArg (List.drop lead.length) (hinner.symm.trans hargument)
      rw [List.drop_left, List.drop_drop] at hdrop
      exact hdrop.trans (by simp [Nat.add_right_comm])

end Shape

end ScenarioScript
