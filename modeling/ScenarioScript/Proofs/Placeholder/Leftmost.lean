import Mathlib.Order.Bounds.Basic
import ScenarioScript.Placeholder.Registry
import ScenarioScript.Proofs.Placeholder.Searching

/-!
# The leftmost placeholder, and the shortest one there

A search goes through a text from left to right.  At each place it reads on until a bracket may
close the argument, and gives up at a line feed.  This file says what it finds without saying how:
of all extents that a placeholder of the family could have, one with the least start, and of those
with this start the one with the least end.

* `Shape.Admissible` — **an extent that a placeholder could have**, as a condition on the text
  alone.
* `Shape.spans_iff_isLeast` — where a reading stops is the least end of an admissible extent.
* `Shape.exists_candidate_iff` — a search has a candidate wherever an admissible extent starts, and
  nowhere else.
* `Shape.IsFirst` — **the first admissible occurrence**, and `Shape.search_leading_eq_some_iff`
  that it is what a search finds.
* `Family.search_finds_first_admissible` — the result, for every family but the null marker.
-/

namespace ScenarioScript

namespace Shape

/-! ## Admissible extents -/

/-- The first bracket of a text, if there is one. -/
def nextBracket? (text : Text) : Option Letter :=
  text.find? fun c => c = char '<' || c = char '>'

/-- What stands between the lead of a placeholder that starts at `start` and its closing bracket, if
    it ends in front of `stop`. -/
def inner (lead text : Text) (start stop : Nat) : Text :=
  (text.take (stop - 1)).drop (start + lead.length + 1)

/-- **An admissible extent** of a placeholder with a lead, from a position on.  Its first bracket
    and the lead stand at `start`, its last bracket right in front of `stop`, and what is between
    them may be an argument.  Behind it, the next bracket is an opening one, if there is any. -/
structure Admissible (lead text : Text) (position : Int) (start stop : Nat) : Prop where
  behind : max position 0 ≤ start
  opens : char '<' :: lead <+: text.drop start
  nonempty : inner lead text start stop ≠ []
  oneLine : char '\n' ∉ inner lead text start stop
  closed : text[stop - 1]? = some (char '>')
  clear : nextBracket? (text.drop stop) = none ∨ nextBracket? (text.drop stop) = some (char '<')

instance (lead text : Text) (position : Int) (start stop : Nat) :
    Decidable (Admissible lead text position start stop) :=
  decidable_of_iff (max position 0 ≤ start ∧ char '<' :: lead <+: text.drop start
      ∧ inner lead text start stop ≠ [] ∧ char '\n' ∉ inner lead text start stop
      ∧ text[stop - 1]? = some (char '>')
      ∧ (nextBracket? (text.drop stop) = none ∨ nextBracket? (text.drop stop) = some (char '<')))
    ⟨fun ⟨h₁, h₂, h₃, h₄, h₅, h₆⟩ => ⟨h₁, h₂, h₃, h₄, h₅, h₆⟩,
      fun ⟨h₁, h₂, h₃, h₄, h₅, h₆⟩ => ⟨h₁, h₂, h₃, h₄, h₅, h₆⟩⟩

/-- **The look ahead is clear** if the next bracket, if there is one, is an opening one. -/
lemma isClear_iff {text : Text} :
    isClear text = true ↔ nextBracket? text = none ∨ nextBracket? text = some (char '<') := by
  simp only [nextBracket?]
  induction text with
  | nil => simp [isClear]
  | cons c text ih =>
      by_cases hopen : c = char '<'
      · simp [isClear, hopen]
      · by_cases hclose : c = char '>'
        · simp [isClear, hclose]
        · simpa [isClear, hopen, hclose] using ih

lemma length_inner {lead text : Text} {start close : Nat} (h : close < text.length) :
    (inner lead text start (close + 1)).length = close - (start + lead.length + 1) := by
  simp [inner, Nat.min_eq_left (Nat.le_of_lt h)]

/-- The characters of the argument, by offset. -/
lemma mem_inner_iff {lead text : Text} {start close : Nat} {c : Letter} :
    c ∈ inner lead text start (close + 1)
      ↔ ∃ k, start + lead.length + 1 ≤ k ∧ k < close ∧ text[k]? = some c := by
  rw [inner, Nat.add_sub_cancel, List.mem_iff_getElem?]
  constructor
  · rintro ⟨i, hi⟩
    rw [List.getElem?_drop, List.getElem?_take] at hi
    split at hi
    · rename_i hlt
      exact ⟨_, by omega, hlt, hi⟩
    · simp at hi
  · rintro ⟨k, hle, hlt, hk⟩
    refine ⟨k - (start + lead.length + 1), ?_⟩
    rw [List.getElem?_drop, Nat.add_sub_cancel' hle, List.getElem?_take, if_pos hlt, hk]

/-- **Admissible extents by offsets** of their closing brackets. -/
lemma admissible_iff {lead text : Text} {position : Int} {start close : Nat} :
    Admissible lead text position start (close + 1)
      ↔ max position 0 ≤ start ∧ char '<' :: lead <+: text.drop start
          ∧ start + lead.length + 2 ≤ close ∧ Closes text close
          ∧ ∀ k, start + lead.length + 1 ≤ k → k < close → text[k]? ≠ some (char '\n') := by
  constructor
  · rintro ⟨hbehind, hopens, hnonempty, honeline, hclosed, hclear⟩
    have hbracket : close < text.length := (List.getElem?_eq_some_iff.mp hclosed).1
    have hlength : 0 < (inner lead text start (close + 1)).length :=
      List.length_pos_iff.mpr hnonempty
    rw [length_inner hbracket] at hlength
    refine ⟨hbehind, hopens, by omega, ⟨hclosed, isClear_iff.mpr hclear⟩, ?_⟩
    intro k hk hlt hline
    exact honeline (mem_inner_iff.mpr ⟨k, hk, hlt, hline⟩)
  · rintro ⟨hbehind, hopens, hroom, ⟨hclosed, hclear⟩, honeline⟩
    have hbracket : close < text.length := (List.getElem?_eq_some_iff.mp hclosed).1
    refine ⟨hbehind, hopens, ?_, ?_, hclosed, isClear_iff.mp hclear⟩
    · refine List.length_pos_iff.mp ?_
      rw [length_inner hbracket]
      omega
    · intro hline
      obtain ⟨k, hk, hlt, hget⟩ := mem_inner_iff.mp hline
      exact honeline k hk hlt hget

/-- An admissible extent has an end that is not the start of the text. -/
lemma Admissible.exists_close {lead text : Text} {position : Int} {start stop : Nat}
    (h : Admissible lead text position start stop) : ∃ close, stop = close + 1 := by
  cases stop with
  | zero => exact absurd (by simp [inner]) h.nonempty
  | succ close => exact ⟨close, rfl⟩

/-! ## Readings and extents -/

/-- **Where a reading stops** is the least end that an extent with this start can have: the first
    bracket that may close the argument is not skipped, and a line feed in front of it stands in
    front of all later ones too. -/
lemma spans_iff_isLeast {lead text : Text} {position : Int} {start close : Nat}
    (hbehind : max position 0 ≤ start) :
    Spans lead text start close
      ↔ IsLeast {stop | Admissible lead text position start stop} (close + 1) := by
  constructor
  · rintro ⟨hopens, hreach⟩
    refine ⟨admissible_iff.mpr
      ⟨hbehind, hopens, hreach.least_le, hreach.closes, hreach.oneLine⟩, ?_⟩
    intro stop hstop
    obtain ⟨other, rfl⟩ := Admissible.exists_close hstop
    obtain ⟨-, -, hroom, hcloses, -⟩ := admissible_iff.mp hstop
    by_contra hlt
    exact hreach.first other hroom (by omega) hcloses
  · rintro ⟨hadmissible, hleast⟩
    obtain ⟨-, hopens, hroom, hcloses, honeline⟩ := admissible_iff.mp hadmissible
    refine ⟨hopens, hroom, hcloses, ?_, honeline⟩
    intro k hk hlt hcl
    have hshorter : Admissible lead text position start (k + 1) :=
      admissible_iff.mpr
        ⟨hbehind, hopens, hk, hcl, fun i hi hik => honeline i hi (by omega)⟩
    have hle := hleast hshorter
    omega

-- The bracket inside `a > b` is no end, because the next one closes as well.
example : Admissible "click_".toText "<click_a > b> c".toText 0 0 13
    ∧ ¬ Admissible "click_".toText "<click_a > b> c".toText 0 0 10 := by
  decide

/-- **A candidate starts** exactly where an admissible extent starts. -/
lemma exists_candidate_iff {lead text : Text} {position : Int} {start : Nat}
    (hbehind : max position 0 ≤ start) :
    (∃ o ∈ (leading lead).candidates text, o.start = start)
      ↔ ∃ stop, Admissible lead text position start stop := by
  constructor
  · rintro ⟨o, ho, rfl⟩
    obtain ⟨close, hspans, -, -⟩ := mem_candidates_leading_iff.mp ho
    exact ⟨close + 1, ((spans_iff_isLeast hbehind).mp hspans).1⟩
  · rintro ⟨stop, hadmissible⟩
    obtain ⟨bracket, rfl⟩ := hadmissible.exists_close
    obtain ⟨-, hopens, hroom, hcloses, honeline⟩ := admissible_iff.mp hadmissible
    obtain ⟨close, -, hreach⟩ := Reaches.exists_of_closes hroom hcloses honeline
    exact ⟨⟨start, close + 1, inner lead text start (close + 1)⟩,
      mem_candidates_leading_iff.mpr ⟨close, ⟨hopens, hreach⟩, rfl, rfl⟩, rfl⟩

/-! ## Searches -/

/-- **The first admissible occurrence** from a position on: no admissible extent starts earlier, and
    none that starts there ends earlier. -/
structure IsFirst (lead text : Text) (position : Int) (o : Occurrence) : Prop where
  admissible : Admissible lead text position o.start o.stop
  leftmost : ∀ start stop, Admissible lead text position start stop → o.start ≤ start
  shortest : ∀ stop, Admissible lead text position o.start stop → o.stop ≤ stop
  argument_eq : o.argument = inner lead text o.start o.stop

/-- **A search finds the first admissible occurrence.** -/
lemma search_leading_eq_some_iff {lead text : Text} {position : Int} {o : Occurrence} :
    (leading lead).search text position = some o ↔ IsFirst lead text position o := by
  rw [search_eq_some_iff]
  constructor
  · rintro ⟨ho, hposition, hleast⟩
    have hbehind : max position 0 ≤ o.start := by omega
    obtain ⟨close, hspans, hstop, hargument⟩ := mem_candidates_leading_iff.mp ho
    have hextent := (spans_iff_isLeast hbehind).mp hspans
    rw [← hstop] at hextent
    refine ⟨hextent.1, ?_, fun stop hadmissible => hextent.2 hadmissible, ?_⟩
    · intro start stop hadmissible
      obtain ⟨p, hp, rfl⟩ := (exists_candidate_iff hadmissible.behind).mpr ⟨stop, hadmissible⟩
      have hreached := hadmissible.behind
      exact hleast p hp (by omega)
    · rw [hargument, hstop]
      rfl
  · rintro ⟨hadmissible, hleftmost, hshortest, hargument⟩
    have hbehind := hadmissible.behind
    obtain ⟨close, hclose⟩ := hadmissible.exists_close
    rw [hclose] at hadmissible hshortest hargument
    have hspans : Spans lead text o.start close :=
      (spans_iff_isLeast hbehind).mpr ⟨hadmissible, fun stop hstop => hshortest stop hstop⟩
    refine ⟨mem_candidates_leading_iff.mpr ⟨close, hspans, hclose, hargument⟩, by omega, ?_⟩
    intro p hp hposition
    have hreached : max position 0 ≤ p.start := by omega
    obtain ⟨stop, hother⟩ := (exists_candidate_iff hreached).mp ⟨p, hp, rfl⟩
    exact hleftmost p.start stop hother

/-- **A search finds nothing** exactly if there is no admissible extent. -/
lemma search_leading_eq_none_iff {lead text : Text} {position : Int} :
    (leading lead).search text position = none
      ↔ ∀ start stop, ¬ Admissible lead text position start stop := by
  rw [search_eq_none_iff]
  constructor
  · intro hnone start stop hadmissible
    have hbehind := hadmissible.behind
    obtain ⟨o, ho, rfl⟩ := (exists_candidate_iff hbehind).mpr ⟨stop, hadmissible⟩
    exact hnone o ho (by omega)
  · intro hnone o ho hposition
    have hbehind : max position 0 ≤ o.start := by omega
    obtain ⟨stop, hadmissible⟩ := (exists_candidate_iff hbehind).mp ⟨o, ho, rfl⟩
    exact hnone o.start stop hadmissible

/-! ## Cursors -/

/-- **Every search of a scan moves the cursor on**, from the start of the text over the ends of what
    has been found. -/
lemma Meets.pairwise_cursors {shape : Shape} {text : Text} {cursor : Nat} {met : List Occurrence}
    (h : shape.Meets text cursor met) :
    (cursor :: met.map Occurrence.stop).Pairwise (· < ·) := by
  induction h with
  | done => simp
  | @next cursor o rest hsome _ ih =>
      obtain ⟨ho, hposition, -⟩ := search_eq_some_iff.mp hsome
      have hproper := start_lt_stop ho
      have hadvance : cursor < o.stop := by omega
      rw [List.map_cons]
      refine List.pairwise_cons.mpr ⟨?_, ih⟩
      intro later hlater
      rcases List.mem_cons.mp hlater with rfl | hlater
      · exact hadvance
      · exact hadvance.trans ((List.pairwise_cons.mp ih).1 later hlater)

end Shape

/-! ## Families -/

/-- All families but the null marker have a lead, and there is no bracket and no line feed in it. -/
lemma Tag.shape_eq_leading {tag : Tag} (h : tag ≠ .finish) :
    tag.shape = .leading (tag.word ++ [char '_'])
      ∧ char '>' ∉ tag.word ++ [char '_'] ∧ char '\n' ∉ tag.word ++ [char '_'] := by
  cases tag with
  | finish => exact absurd rfl h
  | _ => exact ⟨rfl, by decide, by decide⟩

namespace Family

open Shape

/-- What stands behind the first bracket of the family's placeholders, in front of the argument. -/
def lead (family : Family) : Text :=
  family.tag.word ++ [char '_']

lemma shape_eq_leading {family : Family} (h : family.tag ≠ .finish) :
    family.shape = .leading family.lead :=
  (Tag.shape_eq_leading h).1

/-- **What a search finds**, for every family but the null marker, every text and every position.

    * It finds nothing exactly if there is no admissible extent.
    * Otherwise it finds the admissible extent with the least start and, for this start, the least
      end, with the argument in between.
    * What it finds ends behind the position.  So a scan that goes on behind what it has found comes
      to an end, and its cursor moves on with every search. -/
theorem search_finds_first_admissible (family : Family) (htag : family.tag ≠ .finish)
    (text : Text) (position : Int) :
    (family.shape.search text position = none
        ↔ ∀ start stop, ¬ Admissible family.lead text position start stop)
      ∧ (∀ o, family.shape.search text position = some o
        ↔ IsFirst family.lead text position o)
      ∧ (∀ o, family.shape.search text position = some o → max position 0 < o.stop)
      ∧ ∃ met, family.shape.Meets text 0 met ∧ (0 :: met.map Occurrence.stop).Pairwise (· < ·) := by
  rw [shape_eq_leading htag]
  refine ⟨search_leading_eq_none_iff, fun o => search_leading_eq_some_iff, ?_, ?_⟩
  · intro o h
    obtain ⟨ho, hposition, -⟩ := search_eq_some_iff.mp h
    have hproper := start_lt_stop ho
    omega
  · have hmeets := meets_iff.mpr (rfl : (leading family.lead).occurrences text = _)
    exact ⟨_, hmeets, hmeets.pairwise_cursors⟩

/-- The case of a beginning that a line feed cuts off, and of a bracket inside the argument that
    does not close it. -/
theorem search_finds_first_admissible_click :
    let text := "<click_\n<click_a > b> c".toText
    (Family.ofTag .click).tag ≠ .finish
      ∧ (Family.ofTag .click).shape.search text (-1) = some ⟨8, 21, "a > b".toText⟩
      ∧ IsFirst (Family.ofTag .click).lead text (-1) ⟨8, 21, "a > b".toText⟩
      ∧ ∀ start stop, ¬ Admissible (Family.ofTag .click).lead text 9 start stop := by
  have htag : (Family.ofTag .click).tag ≠ .finish := by decide
  have hsearch : (Family.ofTag .click).shape.search "<click_\n<click_a > b> c".toText (-1)
      = some ⟨8, 21, "a > b".toText⟩ := by
    decide
  have hfirst := search_finds_first_admissible _ htag "<click_\n<click_a > b> c".toText (-1)
  have hnone := search_finds_first_admissible _ htag "<click_\n<click_a > b> c".toText 9
  exact ⟨htag, hsearch, (hfirst.2.1 _).mp hsearch, hnone.1.mp (by decide)⟩

end Family

end ScenarioScript
