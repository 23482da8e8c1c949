import Mathlib.Order.Bounds.Basic
import Mathlib.Tactic.Lemma
import ScenarioScript.Suggestion

/-!
# The distance of two texts is their edit distance

An edit inserts, deletes or replaces one letter anywhere in a text.  The distance of two texts is
the least number of edits that lead from the one to the other.  The proof has two halves that meet
in a recursion on the two texts.

**Rows.**  `Distance.cost` compares first letters, while a row compares last ones; so the entry of a
row for two beginnings is the cost of these beginnings read backwards.  `Distance.row` is such a
row, `nextRow_row` is one step of the computation and `lastRow_eq_row` the whole of it.

**Edits.**  `Edits.of_cost` finds as many edits as the cost says.  No fewer will do, because one
edit changes the cost of a text by one at most, whatever it is compared with (`Edit.cost_le`).

Reading both texts backwards changes neither the edits nor their number (`Edits.reverse`), which
joins the halves in `Distance.fromLonger_isLeast`.  Edits can be undone, so that it does not matter
which text is laid along the rows (`distance_isLeast`), and joined.  Hence `distance` is symmetric
and satisfies the triangle inequality (`distance_is_edit_distance`).
-/

namespace ScenarioScript

/-- **One edit** of a text. -/
inductive Edit : Text → Text → Prop where
  | insertion (front behind : Text) (c : Letter) : Edit (front ++ behind) (front ++ c :: behind)
  | deletion (front behind : Text) (c : Letter) : Edit (front ++ c :: behind) (front ++ behind)
  | substitution (front behind : Text) {c d : Letter} :
      c ≠ d → Edit (front ++ c :: behind) (front ++ d :: behind)

/-- **A sequence of edits**, with its length. -/
inductive Edits : Nat → Text → Text → Prop where
  | nil (text : Text) : Edits 0 text text
  | cons {n : Nat} {first second last : Text} :
      Edit first second → Edits n second last → Edits (n + 1) first last

/-! ## Edits -/

namespace Edit

variable {a b : Text}

lemma symm (h : Edit a b) : Edit b a := by
  cases h with
  | insertion front behind c => exact .deletion front behind c
  | deletion front behind c => exact .insertion front behind c
  | substitution front behind hne => exact .substitution front behind hne.symm

lemma push (h : Edit a b) (c : Letter) : Edit (c :: a) (c :: b) := by
  cases h with
  | insertion front behind d => exact .insertion (c :: front) behind d
  | deletion front behind d => exact .deletion (c :: front) behind d
  | substitution front behind hne => exact .substitution (c :: front) behind hne

lemma reverse (h : Edit a b) : Edit a.reverse b.reverse := by
  cases h with
  | insertion front behind c =>
      simpa using Edit.insertion behind.reverse front.reverse c
  | deletion front behind c =>
      simpa using Edit.deletion behind.reverse front.reverse c
  | substitution front behind hne =>
      simpa using Edit.substitution behind.reverse front.reverse hne

end Edit

namespace Edits

variable {m n : Nat} {a b c : Text}

lemma single (h : Edit a b) : Edits 1 a b :=
  .cons h (.nil b)

lemma trans (h : Edits m a b) (h' : Edits n b c) : Edits (m + n) a c := by
  induction h with
  | nil text => rwa [Nat.zero_add]
  | cons hedit _ ih =>
      rw [Nat.add_right_comm]
      exact .cons hedit (ih h')

lemma symm (h : Edits n a b) : Edits n b a := by
  induction h with
  | nil text => exact .nil text
  | cons hedit _ ih => exact ih.trans (single hedit.symm)

lemma push (h : Edits n a b) (d : Letter) : Edits n (d :: a) (d :: b) := by
  induction h with
  | nil text => exact .nil (d :: text)
  | cons hedit _ ih => exact .cons (hedit.push d) ih

lemma reverse (h : Edits n a b) : Edits n a.reverse b.reverse := by
  induction h with
  | nil text => exact .nil text.reverse
  | cons hedit _ ih => exact .cons hedit.reverse ih

lemma reverse_iff : Edits n a.reverse b.reverse ↔ Edits n a b := by
  constructor
  · intro h
    simpa using h.reverse
  · exact reverse

lemma zero_iff : Edits 0 a b ↔ a = b := by
  constructor
  · rintro ⟨⟩
    rfl
  · rintro rfl
    exact .nil a

end Edits

/-! ## The recursion -/

namespace Distance

/-- **The cost of getting from one text to another**, by their first letters. -/
def cost : Text → Text → Nat
  | [], target => target.length
  | c :: source, [] => (c :: source).length
  | c :: source, d :: target =>
    min (min (cost source (d :: target) + 1) (cost (c :: source) target + 1))
      (cost source target + if c = d then 0 else 1)
termination_by source target => source.length + target.length

lemma cost_nil_left (target : Text) : cost [] target = target.length := by
  rw [cost]

lemma cost_nil_right (source : Text) : cost source [] = source.length := by
  cases source with
  | nil => rw [cost]
  | cons c source => rw [cost]

lemma cost_cons_left (c : Letter) (source target : Text) :
    cost (c :: source) target ≤ cost source target + 1 := by
  cases target with
  | nil => simp [cost_nil_right]
  | cons d target =>
      rw [cost]
      omega

lemma cost_cons_right (source : Text) (d : Letter) (target : Text) :
    cost source (d :: target) ≤ cost source target + 1 := by
  cases source with
  | nil => simp [cost_nil_left]
  | cons c source =>
      rw [cost]
      omega

lemma cost_self (text : Text) : cost text text = 0 := by
  induction text with
  | nil => rw [cost, List.length_nil]
  | cons c text ih => simp [cost, ih]

end Distance

open Distance

/-! ## As many edits as the cost -/

/-- A text is written letter by letter, from its end. -/
lemma Edits.of_nil (text : Text) : Edits text.length [] text := by
  induction text with
  | nil => exact .nil []
  | cons d text ih => exact ih.trans (.single (.insertion [] text d))

/-- **The cost can be met.** -/
lemma Edits.of_cost (source target : Text) : Edits (cost source target) source target := by
  fun_induction cost source target with
  | case1 target => exact Edits.of_nil target
  | case2 c source => exact (Edits.of_nil (c :: source)).symm
  | case3 c source d target ihdelete ihinsert ihkeep =>
      have hdelete : Edits (cost source (d :: target) + 1) (c :: source) (d :: target) :=
        .cons (.deletion [] source c) ihdelete
      have hinsert : Edits (cost (c :: source) target + 1) (c :: source) (d :: target) :=
        ihinsert.trans (.single (.insertion [] target d))
      have hkeep : Edits (cost source target + if c = d then 0 else 1)
          (c :: source) (d :: target) := by
        split
        · next heq =>
            subst heq
            exact ihkeep.push c
        · next hne => exact .cons (.substitution [] source hne) (ihkeep.push d)
      -- the least of the three numbers is one of them
      exact min_rec' (Edits · (c :: source) (d :: target))
        (min_rec' (Edits · (c :: source) (d :: target)) hdelete hinsert) hkeep

/-! ## No fewer edits than the cost -/

namespace Distance

/-- A letter put in front of a text saves one edit at most. -/
lemma cost_le_cost_cons (c : Letter) (source target : Text) :
    cost source target ≤ cost (c :: source) target + 1 := by
  induction target with
  | nil =>
      simp only [cost_nil_right, List.length_cons]
      omega
  | cons d target ih =>
      have hinsert := cost_cons_right source d target
      rw [cost]
      omega

/-- So does one that takes the place of the first. -/
lemma cost_cons_le_cost_cons (c d : Letter) (source target : Text) :
    cost (c :: source) target ≤ cost (d :: source) target + 1 := by
  induction target with
  | nil => simp [cost_nil_right]
  | cons e target ih =>
      simp only [cost]
      split <;> split <;> omega

/-- What holds of two texts for every target holds of them behind a common first letter. -/
lemma cost_push_le {a b : Text} (h : ∀ target, cost a target ≤ cost b target + 1) (c : Letter)
    (target : Text) : cost (c :: a) target ≤ cost (c :: b) target + 1 := by
  induction target with
  | nil => simpa [cost_nil_right] using h []
  | cons d target ih =>
      have hdelete := h (d :: target)
      have hkeep := h target
      simp only [cost]
      omega

lemma cost_append_le {a b : Text} (h : ∀ target, cost a target ≤ cost b target + 1)
    (front target : Text) : cost (front ++ a) target ≤ cost (front ++ b) target + 1 := by
  induction front generalizing target with
  | nil => exact h target
  | cons c front ih => exact cost_push_le ih c target

end Distance

/-- **One edit saves one edit at most.** -/
lemma Edit.cost_le {a b : Text} (h : Edit a b) (target : Text) :
    cost a target ≤ cost b target + 1 := by
  cases h with
  | insertion front behind c => exact cost_append_le (cost_le_cost_cons c behind) front target
  | deletion front behind c => exact cost_append_le (cost_cons_left c behind) front target
  | substitution front behind hne =>
      exact cost_append_le (cost_cons_le_cost_cons _ _ behind) front target

/-- **No fewer edits lead from one text to another.** -/
lemma Edits.cost_le {n : Nat} {a b : Text} (h : Edits n a b) : cost a b ≤ n := by
  induction h with
  | nil text => rw [cost_self]
  | cons hedit _ ih => exact (hedit.cost_le _).trans (Nat.add_le_add_right ih 1)

/-! ## Rows -/

namespace Distance

/-- **A row**, from some entry on.  The texts that have been read are given backwards: all of the
    source, and `front` of the target. -/
def row (source : Text) : (front target : Text) → List Nat
  | front, [] => [cost source front]
  | front, d :: target => cost source front :: row source (d :: front) target

lemma row_eq_cons (source front target : Text) :
    row source front target = cost source front :: (row source front target).tail := by
  cases target <;> rfl

lemma row_nil (front target : Text) :
    row [] front target = List.range' front.length (target.length + 1) := by
  induction target generalizing front with
  | nil => simp [row, cost_nil_left]
  | cons d target ih => simp [row, cost_nil_left, ih, List.range'_succ]

/-- **One entry after the other**: from the entries of the row above, and the one on the left, the
    rest of the row is computed. -/
lemma rowFrom_row (c : Letter) (source front target : Text) :
    rowFrom c (cost (c :: source) front) target (row source front target)
      = (row (c :: source) front target).tail := by
  induction target generalizing front with
  | nil => rfl
  | cons d target ih =>
      have hentry : cost (c :: source) (d :: front)
          = min (min (cost source (d :: front) + 1) (cost (c :: source) front + 1))
            (cost source front + if c = d then 0 else 1) := by
        rw [cost]
      rw [row, row_eq_cons source (d :: front), rowFrom, ← hentry, ← row_eq_cons, ih, row,
        List.tail_cons, ← row_eq_cons]

/-- **One row after the other.** -/
lemma nextRow_row (c : Letter) (source target : Text) :
    nextRow target (row source [] target) c = row (c :: source) [] target := by
  have hfirst : cost source [] + 1 = cost (c :: source) [] := by
    simp [cost_nil_right]
  rw [row_eq_cons, nextRow, ← row_eq_cons, hfirst, rowFrom_row, ← row_eq_cons]

lemma foldl_nextRow (source front target : Text) :
    source.foldl (nextRow target) (row front [] target)
      = row (source.reverse ++ front) [] target := by
  induction source generalizing front with
  | nil => rfl
  | cons c source ih => simp [nextRow_row, ih]

/-- **The last row** belongs to the whole source. -/
lemma lastRow_eq_row (source target : Text) :
    lastRow source target = row source.reverse [] target := by
  have hfirst : List.range (target.length + 1) = row [] [] target := by
    rw [row_nil, List.range_eq_range', List.length_nil]
  rw [lastRow, hfirst, foldl_nextRow, List.append_nil]

lemma getLastD_row (default : Nat) (source front target : Text) :
    (row source front target).getLastD default = cost source (target.reverse ++ front) := by
  induction target generalizing default front with
  | nil => rfl
  | cons d target ih =>
      rw [row, List.getLastD_cons, ih, List.reverse_cons, List.append_assoc, List.singleton_append]

end Distance

/-! ## The distance -/

namespace Distance

/-- The case of the empty text says what the rows would say. -/
lemma fromLonger_eq_cost (source target : Text) :
    fromLonger source target = cost source.reverse target.reverse := by
  rw [fromLonger]
  split
  · next hempty =>
      rw [List.length_eq_zero_iff.mp hempty, List.reverse_nil, cost_nil_right, List.length_reverse]
  · rw [lastRow_eq_row, getLastD_row, List.append_nil]

lemma fromLonger_isLeast (a b : Text) : IsLeast {n | Edits n a b} (fromLonger a b) := by
  rw [fromLonger_eq_cost]
  constructor
  · exact Edits.reverse_iff.mp (Edits.of_cost a.reverse b.reverse)
  · intro n hn
    exact (Edits.reverse_iff.mpr hn).cost_le

end Distance

/-- **The distance is the least number of edits**, whichever text is longer. -/
lemma distance_isLeast (a b : Text) : IsLeast {n | Edits n a b} (distance a b) := by
  rw [distance]
  split
  · have hundone : {n | Edits n a b} = {n | Edits n b a} :=
      Set.ext fun n => ⟨Edits.symm, Edits.symm⟩
    rw [hundone]
    exact fromLonger_isLeast b a
  · exact fromLonger_isLeast a b

/-- **The distance of two texts is their edit distance**: some sequence of so many edits leads from
    the one to the other, and no shorter one does.  Hence it is zero for equal texts only, the same
    in both directions, and no greater than the way over a third text. -/
theorem distance_is_edit_distance (a b c : Text) :
    IsLeast {n | Edits n a b} (distance a b)
      ∧ (distance a b = 0 ↔ a = b)
      ∧ distance a b = distance b a
      ∧ distance a c ≤ distance a b + distance b c := by
  obtain ⟨hab, hleast⟩ := distance_isLeast a b
  obtain ⟨hba, hleast'⟩ := distance_isLeast b a
  refine ⟨⟨hab, hleast⟩, ⟨fun hzero => ?_, ?_⟩, ?_, ?_⟩
  · rw [hzero] at hab
    exact Edits.zero_iff.mp hab
  · rintro rfl
    exact Nat.le_zero.mp (hleast (Edits.nil a))
  · exact Nat.le_antisymm (hleast hba.symm) (hleast' hab.symm)
  · exact (distance_isLeast a c).2 (hab.trans (distance_isLeast b c).1)

example : distance "kitten".toText "sitting".toText = 3 := by decide

end ScenarioScript
