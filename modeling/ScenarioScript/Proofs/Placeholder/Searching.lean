import ScenarioScript.Proofs.Placeholder.Occurrences

/-!
# Searching again and again

The occurrences of a text are listed by sweeping over its candidates.  They can also be met one by
one: search from a cursor on, put the cursor behind what has been found, and search again until
nothing is found.

* `Shape.Meets` — **the searches of a scan**, as a relation: nothing says beforehand that it ends.
* `Shape.search_eq_some_iff` — what one search finds is the first candidate from a position on.
* `Shape.sweep_of_search_none`, `Shape.sweep_of_search_some` — what one search is for the sweep.
* `Shape.meets_iff_eq_sweep`, `Shape.meets_iff` — the searches end, and they meet the occurrences.
* `Shape.exists_search_of_mem_occurrences` — every occurrence is what some search finds.
-/

namespace ScenarioScript

namespace Shape

/-- **The searches of a scan**: each one starts behind what the one before it has found, and the
    last one finds nothing. -/
inductive Meets (shape : Shape) (text : Text) : (cursor : Nat) → List Occurrence → Prop where
  | done {cursor : Nat} : shape.search text cursor = none → Meets shape text cursor []
  | next {cursor : Nat} {o : Occurrence} {rest : List Occurrence} :
      shape.search text cursor = some o → Meets shape text o.stop rest →
      Meets shape text cursor (o :: rest)

lemma search_eq_find? (shape : Shape) (text : Text) (cursor : Nat) :
    shape.search text cursor = (shape.candidates text).find? fun o => cursor ≤ o.start := by
  simp only [search, Int.ofNat_le]

/-! ## One search -/

/-- **A search finds a candidate** exactly if it starts at the position or behind it, and no other
    one that does starts earlier. -/
lemma search_eq_some_iff {shape : Shape} {text : Text} {position : Int} {o : Occurrence} :
    shape.search text position = some o
      ↔ o ∈ shape.candidates text ∧ position ≤ o.start
          ∧ ∀ p ∈ shape.candidates text, position ≤ p.start → o.start ≤ p.start := by
  have hpairs := pairwise_candidates shape text
  constructor
  · intro h
    obtain ⟨ho, left, right, hsplit, hleft⟩ := List.find?_eq_some_iff_append.mp h
    refine ⟨List.mem_of_find?_eq_some h, by simpa using ho, ?_⟩
    intro p hp hposition
    rw [hsplit] at hp hpairs
    simp only [List.mem_append, List.mem_cons] at hp
    rcases hp with hp | rfl | hp
    · exact absurd hposition (by simpa using hleft p hp)
    · exact le_refl _
    · have hbehind := (List.pairwise_cons.mp (List.pairwise_append.mp hpairs).2.1).1
      exact Nat.le_of_lt (hbehind p hp)
  · rintro ⟨hmem, hposition, hleast⟩
    obtain ⟨left, right, hsplit⟩ := List.append_of_mem hmem
    refine List.find?_eq_some_iff_append.mpr
      ⟨by simpa using hposition, left, right, hsplit, ?_⟩
    intro p hp
    rw [hsplit] at hpairs hleast
    have hlt : p.start < o.start := (List.pairwise_append.mp hpairs).2.2 p hp o (by simp)
    by_contra hreached
    have hle := hleast p (by simp [hp]) (by simpa using hreached)
    omega

lemma search_eq_none_iff {shape : Shape} {text : Text} {position : Int} :
    shape.search text position = none ↔ ∀ o ∈ shape.candidates text, ¬ position ≤ o.start := by
  simp [search]

lemma sweep_of_forall_lt {cursor : Nat} : ∀ {l : List Occurrence},
    (∀ o ∈ l, o.start < cursor) → sweep cursor l = []
  | [], _ => rfl
  | o :: rest, h => by
      obtain ⟨ho, hrest⟩ := List.forall_mem_cons.mp h
      rw [sweep, if_pos ho, sweep_of_forall_lt hrest]

lemma sweep_of_find?_some {cursor : Nat} {o : Occurrence} : ∀ {l : List Occurrence},
    (∀ p ∈ l, p.start < p.stop) → l.find? (fun p => cursor ≤ p.start) = some o →
    sweep cursor l = o :: sweep o.stop l
  | [], _, h => by simp at h
  | p :: rest, hproper, h => by
      obtain ⟨hp, hrest⟩ := List.forall_mem_cons.mp hproper
      by_cases hcursor : cursor ≤ p.start
      · obtain rfl : p = o := by simpa [List.find?_cons, hcursor] using h
        rw [sweep, if_neg (by omega), sweep, if_pos hp]
      · rw [List.find?_cons_of_neg (by simpa using hcursor)] at h
        have ho : cursor ≤ o.start := by simpa using List.find?_some h
        have hproper' := hrest o (List.mem_of_find?_eq_some h)
        rw [sweep, if_pos (by omega), sweep, if_pos (by omega), sweep_of_find?_some hrest h]

section Search

variable {shape : Shape} {text : Text} {cursor : Nat}

/-- Where a search finds nothing, the sweep keeps nothing. -/
lemma sweep_of_search_none (h : shape.search text cursor = none) :
    sweep cursor (shape.candidates text) = [] := by
  rw [search_eq_find?, List.find?_eq_none] at h
  exact sweep_of_forall_lt fun o ho => by simpa using h o ho

/-- **What a search finds** the sweep keeps first, and then it goes on behind it. -/
lemma sweep_of_search_some {o : Occurrence} (h : shape.search text cursor = some o) :
    sweep cursor (shape.candidates text) = o :: sweep o.stop (shape.candidates text) := by
  rw [search_eq_find?] at h
  refine sweep_of_find?_some (fun p hp => ?_) h
  have hlength := start_lt_stop hp
  omega

end Search

/-! ## All searches -/

/-- **The searches from a cursor on** come to an end, with what the sweep keeps. -/
lemma meets_iff_eq_sweep {shape : Shape} {text : Text} {cursor : Nat} {l : List Occurrence} :
    shape.Meets text cursor l ↔ l = sweep cursor (shape.candidates text) := by
  constructor
  · intro h
    induction h with
    | done hnone => rw [sweep_of_search_none hnone]
    | next hsome _ ih => rw [sweep_of_search_some hsome, ih]
  · -- every search takes one occurrence off the sweep
    induction l generalizing cursor with
    | nil =>
        intro h
        cases hsearch : shape.search text cursor with
        | none => exact .done hsearch
        | some o => simp [sweep_of_search_some hsearch] at h
    | cons o rest ih =>
        intro h
        cases hsearch : shape.search text cursor with
        | none => simp [sweep_of_search_none hsearch] at h
        | some found =>
            rw [sweep_of_search_some hsearch, List.cons.injEq] at h
            obtain ⟨rfl, hrest⟩ := h
            exact .next hsearch (ih hrest)

/-- **The searches of a scan come to an end, and they meet the occurrences.** -/
lemma meets_iff {shape : Shape} {text : Text} {l : List Occurrence} :
    shape.Meets text 0 l ↔ l = shape.occurrences text :=
  meets_iff_eq_sweep

lemma Meets.exists_search {shape : Shape} {text : Text} {cursor : Nat} {l : List Occurrence}
    (h : shape.Meets text cursor l) {o : Occurrence} (ho : o ∈ l) :
    ∃ cursor' : Nat, shape.search text cursor' = some o := by
  induction h with
  | done => simp at ho
  | @next cursor found rest hsome _ ih =>
      rcases List.mem_cons.mp ho with rfl | ho
      · exact ⟨cursor, hsome⟩
      · exact ih ho

/-- **Every occurrence is what some search finds.** -/
lemma exists_search_of_mem_occurrences {shape : Shape} {text : Text} {o : Occurrence}
    (h : o ∈ shape.occurrences text) : ∃ cursor : Nat, shape.search text cursor = some o :=
  (meets_iff.mpr rfl).exists_search h

end Shape

end ScenarioScript
