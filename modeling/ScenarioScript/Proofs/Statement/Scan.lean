import Mathlib.Data.List.Infix
import Mathlib.Data.List.Perm.Basic
import ScenarioScript.Proofs.Placeholder.Occurrences
import ScenarioScript.Statement.Resolution

/-!
# What a scan leaves behind

The scan of a statement visits the occurrences of one family after the other.  `visits` lists these
visits, so that a scan makes one visit after the other (`run_eq_after`), and `visit_cases` says all
that a single visit can do.  Everything else is an induction over the visits.

* `Splice.Ordered` — the replacements are not empty, disjoint and go from left to right.  Every
  visit keeps this (`ordered_visit`), hence every scan has it (`ordered_run`).
* `Scan.Treats` — **a moment of a scan** at which an occurrence is not passed over.  It is replaced
  then if it has code (`Treats.mem_splices`), and reported otherwise (`Treats.mem_unresolved`); all
  replacements are made at such moments (`exists_treats_of_mem_splices`).
* `mem_splices_run` — every replacement comes from a visit whose argument some form accepts.
* `settled_run` — **no visit is forgotten**: at the end its occurrence is reported, or it shares a
  character with a replacement.
* `run_of_untouched` — an occurrence that earlier families leave alone is replaced or reported.
* `run_of_apart` — where the visited occurrences are apart, none is passed over, so that
  the replacements and the reports can be read off the list of visits.
-/

namespace ScenarioScript

/-! ## Ordered replacements -/

lemma Splice.insert_perm (splice : Splice) : ∀ l : List Splice,
    (splice.insert l).Perm (splice :: l)
  | [] => List.Perm.refl _
  | other :: rest => by
      rw [Splice.insert]
      split
      · exact List.Perm.refl _
      · exact ((splice.insert_perm rest).cons other).trans (List.Perm.swap splice other rest)

lemma Splice.mem_insert {splice other : Splice} {l : List Splice} :
    other ∈ splice.insert l ↔ other = splice ∨ other ∈ l := by
  rw [(splice.insert_perm l).mem_iff, List.mem_cons]

/-- Replacements that are not empty, disjoint and in order. -/
def Splice.Ordered (l : List Splice) : Prop :=
  (∀ splice ∈ l, splice.start < splice.stop) ∧ l.Pairwise fun a b => a.stop ≤ b.start

/-- A replacement that is apart from the others finds its place among them. -/
lemma Splice.ordered_insert {splice : Splice} (hproper : splice.start < splice.stop) :
    ∀ {l : List Splice}, Splice.Ordered l →
      (∀ other ∈ l, splice.stop ≤ other.start ∨ other.stop ≤ splice.start) →
      Splice.Ordered (splice.insert l)
  | [], _, _ => by simp [Splice.insert, Splice.Ordered, hproper]
  | other :: rest, hordered, hapart => by
      obtain ⟨hnonempty, hpairs⟩ := hordered
      obtain ⟨hhead, htail⟩ := List.pairwise_cons.mp hpairs
      have hother := hnonempty other (by simp)
      have hcase := hapart other (by simp)
      refine ⟨fun s hs => ?_, ?_⟩
      · rcases Splice.mem_insert.mp hs with rfl | hs
        · exact hproper
        · exact hnonempty s hs
      · rw [Splice.insert]
        split
        · rename_i hlt
          refine List.pairwise_cons.mpr ⟨fun s hs => ?_, hpairs⟩
          rcases List.mem_cons.mp hs with rfl | hs
          · omega
          · have hlater := hhead s hs
            omega
        · have ih := splice.ordered_insert hproper
            ⟨fun s hs => hnonempty s (List.mem_cons_of_mem other hs), htail⟩
            (fun s hs => hapart s (List.mem_cons_of_mem other hs))
          refine List.pairwise_cons.mpr ⟨fun s hs => ?_, ih.2⟩
          rcases Splice.mem_insert.mp hs with rfl | hs
          · omega
          · exact hhead s hs

/-- Ordered replacements are determined by what they are, whatever order they were made in. -/
lemma Splice.Ordered.ext {l l' : List Splice} (h : Splice.Ordered l) (h' : Splice.Ordered l')
    (hmem : ∀ splice, splice ∈ l ↔ splice ∈ l') : l = l' := by
  have hstrict : ∀ {k : List Splice}, Splice.Ordered k →
      k.Pairwise fun a b => a.start < b.start := by
    intro k hk
    refine hk.2.imp_of_mem fun {a b} ha _ hle => ?_
    exact lt_of_lt_of_le (hk.1 a ha) hle
  have hnodup : ∀ {k : List Splice}, Splice.Ordered k → k.Nodup := by
    intro k hk
    exact (hstrict hk).imp fun {a b} hlt heq => by simp [heq] at hlt
  have hperm : l.Perm l' := (List.perm_ext_iff_of_nodup (hnodup h) (hnodup h')).mpr hmem
  refine hperm.eq_of_pairwise (fun a b _ _ hlt hgt => ?_) (hstrict h) (hstrict h')
  exact absurd hlt (by omega)

/-! ## One visit -/

/-- **The visits of a scan**: every occurrence of every family, in the order of the scan. -/
def visits (families : List Family) (statement : Text) : List (Family × Occurrence) :=
  families.flatMap fun family => (family.shape.occurrences statement).map fun o => (family, o)

lemma mem_visits_iff {families : List Family} {statement : Text} {family : Family}
    {o : Occurrence} :
    (family, o) ∈ visits families statement
      ↔ family ∈ families ∧ o ∈ family.shape.occurrences statement := by
  simp [visits]

/-- The report about an occurrence that no form accepts. -/
def reportOf (statement : Text) (v : Family × Occurrence) : Unresolved :=
  ⟨v.1.tag, v.1.shape.token v.2.argument, statement⟩

/-- The replacement of an occurrence that some form accepts. -/
def spliceOf? (v : Family × Occurrence) : Option Splice :=
  (v.1.render? v.2.argument).map fun code => ⟨v.2.start, v.2.stop, code⟩

namespace Scan

/-- **The scan after further visits.** -/
def after (statement : Text) (scan : Scan) : List (Family × Occurrence) → Scan
  | [] => scan
  | v :: vs => after statement (visit statement v.1 scan v.2) vs

lemma after_eq_foldl (statement : Text) : ∀ (vs : List (Family × Occurrence)) (scan : Scan),
    after statement scan vs = vs.foldl (fun scan v => visit statement v.1 scan v.2) scan
  | [], _ => rfl
  | _ :: vs, _ => after_eq_foldl statement vs _

/-- A scan makes one visit after the other. -/
lemma run_eq_after (families : List Family) (statement : Text) :
    run families statement = after statement {} (visits families statement) := by
  rw [after_eq_foldl, run, visits, List.foldl_flatMap]
  simp only [List.foldl_map]
  rfl

/-- **All that a visit can do**: pass over an occurrence that overlaps a replacement, report one
    that no form accepts, or replace one. -/
lemma visit_cases (statement : Text) (family : Family) (scan : Scan) (o : Occurrence) :
    ((∃ splice ∈ scan.splices, o.overlaps splice.start splice.stop = true)
        ∧ visit statement family scan o = scan)
      ∨ ((∀ splice ∈ scan.splices, o.overlaps splice.start splice.stop = false)
        ∧ ((spliceOf? (family, o) = none ∧ visit statement family scan o
              = { scan with unresolved := scan.unresolved ++ [reportOf statement (family, o)] })
          ∨ ∃ splice, spliceOf? (family, o) = some splice ∧ visit statement family scan o
              = { scan with splices := splice.insert scan.splices })) := by
  by_cases hoverlap : scan.splices.any fun splice => o.overlaps splice.start splice.stop
  · refine Or.inl ⟨by simpa using hoverlap, ?_⟩
    rw [visit, if_pos hoverlap]
  · refine Or.inr ⟨by simpa using hoverlap, ?_⟩
    cases hcode : family.render? o.argument with
    | none =>
        refine Or.inl ⟨by simp [spliceOf?, hcode], ?_⟩
        rw [visit, if_neg hoverlap, hcode]
        rfl
    | some code =>
        refine Or.inr ⟨⟨o.start, o.stop, code⟩, by simp [spliceOf?, hcode], ?_⟩
        rw [visit, if_neg hoverlap, hcode]

lemma visit_splices_mono {statement : Text} {family : Family} {scan : Scan} {o : Occurrence} :
    scan.splices ⊆ (visit statement family scan o).splices := by
  rcases visit_cases statement family scan o with ⟨-, h⟩ | ⟨-, ⟨-, h⟩ | ⟨splice, -, h⟩⟩
  · rw [h]; exact List.Subset.refl _
  · rw [h]; exact List.Subset.refl _
  · rw [h]; exact fun s hs => Splice.mem_insert.mpr (Or.inr hs)

lemma unresolved_prefix_visit {statement : Text} {family : Family} {scan : Scan} {o : Occurrence} :
    scan.unresolved <+: (visit statement family scan o).unresolved := by
  rcases visit_cases statement family scan o with ⟨-, h⟩ | ⟨-, ⟨-, h⟩ | ⟨splice, -, h⟩⟩
  · rw [h]
  · rw [h]; exact List.prefix_append _ _
  · rw [h]

/-- A visit keeps the replacements in order. -/
lemma ordered_visit {statement : Text} {family : Family} {scan : Scan} {o : Occurrence}
    (hproper : o.start < o.stop) (hordered : Splice.Ordered scan.splices) :
    Splice.Ordered (visit statement family scan o).splices := by
  rcases visit_cases statement family scan o with ⟨-, h⟩ | ⟨hapart, ⟨-, h⟩ | ⟨splice, hsplice, h⟩⟩
  · rw [h]; exact hordered
  · rw [h]; exact hordered
  · obtain ⟨code, -, rfl⟩ := Option.map_eq_some_iff.mp hsplice
    rw [h]
    refine Splice.ordered_insert hproper hordered fun other hother => ?_
    have hno := hapart other hother
    simp only [Occurrence.overlaps, Bool.and_eq_false_iff, decide_eq_false_iff_not] at hno
    show o.stop ≤ other.start ∨ other.stop ≤ o.start
    omega

/-- After its visit an occurrence is **settled**: reported, or touched by a replacement. -/
def Settled (statement : Text) (scan : Scan) (v : Family × Occurrence) : Prop :=
  (∃ splice ∈ scan.splices, v.2.overlaps splice.start splice.stop = true)
    ∨ reportOf statement v ∈ scan.unresolved

lemma settled_visit {statement : Text} {family : Family} {scan : Scan} {o : Occurrence}
    (hproper : o.start < o.stop) :
    Settled statement (visit statement family scan o) (family, o) := by
  rcases visit_cases statement family scan o
    with ⟨hoverlap, h⟩ | ⟨-, ⟨-, h⟩ | ⟨splice, hsplice, h⟩⟩
  · rw [h]; exact Or.inl hoverlap
  · rw [h]; exact Or.inr (by simp)
  · obtain ⟨code, -, rfl⟩ := Option.map_eq_some_iff.mp hsplice
    rw [h]
    refine Or.inl ⟨⟨o.start, o.stop, code⟩, Splice.mem_insert.mpr (Or.inl rfl), ?_⟩
    simp [Occurrence.overlaps, hproper]

lemma Settled.visit {statement : Text} {scan : Scan} {v : Family × Occurrence}
    (h : Settled statement scan v) (family : Family) (o : Occurrence) :
    Settled statement (visit statement family scan o) v := by
  rcases h with ⟨splice, hsplice, hoverlap⟩ | hreport
  · exact Or.inl ⟨splice, visit_splices_mono hsplice, hoverlap⟩
  · exact Or.inr (unresolved_prefix_visit.subset hreport)

/-! ## All visits -/

section After

variable {statement : Text}

lemma ordered_after : ∀ {vs : List (Family × Occurrence)} {scan : Scan},
    (∀ v ∈ vs, v.2.start < v.2.stop) → Splice.Ordered scan.splices →
    Splice.Ordered (after statement scan vs).splices
  | [], _, _, hordered => hordered
  | v :: vs, scan, hproper, hordered => by
      rw [after]
      refine ordered_after (fun w hw => hproper w (List.mem_cons_of_mem v hw)) ?_
      exact ordered_visit (hproper v (by simp)) hordered

lemma Settled.after {v : Family × Occurrence} : ∀ {vs : List (Family × Occurrence)} {scan : Scan},
    Settled statement scan v → Settled statement (after statement scan vs) v
  | [], _, h => h
  | w :: vs, scan, h => by
      rw [Scan.after]
      exact (h.visit w.1 w.2).after

lemma settled_after {v : Family × Occurrence} (hproper : v.2.start < v.2.stop) :
    ∀ {vs : List (Family × Occurrence)} {scan : Scan}, v ∈ vs →
      Settled statement (after statement scan vs) v
  | w :: vs, scan, h => by
      rw [after]
      rcases List.mem_cons.mp h with rfl | h
      · exact (settled_visit hproper).after
      · exact settled_after hproper h

lemma after_append : ∀ (vs ws : List (Family × Occurrence)) (scan : Scan),
    after statement scan (vs ++ ws) = after statement (after statement scan vs) ws
  | [], _, _ => rfl
  | v :: vs, ws, scan => after_append vs ws (visit statement v.1 scan v.2)

lemma splices_after_mono : ∀ (vs : List (Family × Occurrence)) (scan : Scan),
    scan.splices ⊆ (after statement scan vs).splices
  | [], _ => List.Subset.refl _
  | _ :: vs, _ => fun _ h => splices_after_mono vs _ (visit_splices_mono h)

lemma unresolved_prefix_after : ∀ (vs : List (Family × Occurrence)) (scan : Scan),
    scan.unresolved <+: (after statement scan vs).unresolved
  | [], _ => List.prefix_refl _
  | _ :: vs, _ => unresolved_prefix_visit.trans (unresolved_prefix_after vs _)

/-- Where the visited occurrences are apart, each of them is replaced or reported. -/
lemma after_of_apart : ∀ (vs : List (Family × Occurrence)) (scan : Scan),
    vs.Pairwise (fun v w => v.2.stop ≤ w.2.start ∨ w.2.stop ≤ v.2.start) →
    (∀ v ∈ vs, ∀ splice ∈ scan.splices, v.2.stop ≤ splice.start ∨ splice.stop ≤ v.2.start) →
    (after statement scan vs).splices.Perm (scan.splices ++ vs.filterMap spliceOf?)
      ∧ (after statement scan vs).unresolved
        = scan.unresolved ++ (vs.filter fun v => (spliceOf? v).isNone).map (reportOf statement)
  | [], scan, _, _ => by simp [after]
  | v :: vs, scan, hpairs, hapart => by
      obtain ⟨hhead, htail⟩ := List.pairwise_cons.mp hpairs
      have hrest : ∀ w ∈ vs, ∀ splice ∈ scan.splices,
          w.2.stop ≤ splice.start ∨ splice.stop ≤ w.2.start :=
        fun w hw => hapart w (List.mem_cons_of_mem v hw)
      rw [after]
      rcases visit_cases statement v.1 scan v.2
        with ⟨⟨splice, hsplice, hoverlap⟩, -⟩ | ⟨-, ⟨hnone, heq⟩ | ⟨splice, hsome, heq⟩⟩
      · -- passing over is excluded
        have hcase := hapart v (by simp) splice hsplice
        simp only [Occurrence.overlaps, Bool.and_eq_true, decide_eq_true_eq] at hoverlap
        omega
      · rw [heq]
        obtain ⟨hperm, hreports⟩ := after_of_apart vs
          ⟨scan.splices, scan.unresolved ++ [reportOf statement (v.1, v.2)]⟩ htail hrest
        refine ⟨?_, ?_⟩
        · rw [List.filterMap_cons_none hnone]
          exact hperm
        · rw [List.filter_cons_of_pos (by simp [hnone]), List.map_cons]
          simpa using hreports
      · obtain ⟨code, -, hcode⟩ := Option.map_eq_some_iff.mp hsome
        have hinsert : ∀ w ∈ vs, ∀ other ∈ splice.insert scan.splices,
            w.2.stop ≤ other.start ∨ other.stop ≤ w.2.start := by
          intro w hw other hother
          rcases Splice.mem_insert.mp hother with rfl | hold
          · subst hcode
            exact (hhead w hw).symm
          · exact hrest w hw other hold
        rw [heq]
        obtain ⟨hperm, hreports⟩ := after_of_apart vs ⟨splice.insert scan.splices, scan.unresolved⟩
          htail hinsert
        refine ⟨?_, ?_⟩
        · rw [List.filterMap_cons_some hsome]
          refine hperm.trans (((splice.insert_perm scan.splices).append_right _).trans ?_)
          exact List.perm_middle.symm
        · rw [hreports, List.filter_cons_of_neg (by simp [hsome])]

end After

/-! ## Moments -/

/-- **Among further visits a scan treats an occurrence**: behind the visits `before` comes its own,
    and nothing that has been replaced by then touches it. -/
structure Treats (statement : Text) (scan : Scan) (vs before : List (Family × Occurrence))
    (v : Family × Occurrence) : Prop where
  next : before ++ [v] <+: vs
  untouched : ∀ splice ∈ (after statement scan before).splices,
    v.2.overlaps splice.start splice.stop = false

section Treats

variable {statement : Text} {scan : Scan} {vs before : List (Family × Occurrence)}
  {v w : Family × Occurrence} {splice : Splice}

lemma Treats.mem (h : Treats statement scan vs before v) : v ∈ vs :=
  h.next.subset (by simp)

lemma Treats.cons (h : Treats statement (visit statement w.1 scan w.2) vs before v) :
    Treats statement scan (w :: vs) (w :: before) v :=
  ⟨List.cons_prefix_cons.mpr ⟨rfl, h.next⟩, h.untouched⟩

lemma Treats.exists_after (h : Treats statement scan vs before v) :
    ∃ behind, after statement scan vs
      = after statement (visit statement v.1 (after statement scan before) v.2) behind := by
  obtain ⟨behind, rfl⟩ := h.next
  exact ⟨behind, by rw [after_append, after_append]; rfl⟩

/-- What is treated and has code is replaced. -/
lemma Treats.mem_splices (h : Treats statement scan vs before v)
    (hcode : spliceOf? v = some splice) : splice ∈ (after statement scan vs).splices := by
  obtain ⟨behind, hafter⟩ := h.exists_after
  rw [hafter]
  refine splices_after_mono _ _ ?_
  rcases visit_cases statement v.1 (after statement scan before) v.2
    with ⟨⟨s, hs, hoverlap⟩, -⟩ | ⟨-, ⟨hnone, -⟩ | ⟨new, hnew, heq⟩⟩
  · rw [h.untouched s hs] at hoverlap
    exact absurd hoverlap (by simp)
  · exact absurd (hnone.symm.trans hcode) (by simp)
  · obtain rfl := Option.some.inj (hnew.symm.trans hcode)
    rw [heq]
    exact Splice.mem_insert.mpr (Or.inl rfl)

/-- What is treated and has no code is reported. -/
lemma Treats.mem_unresolved (h : Treats statement scan vs before v) (hnone : spliceOf? v = none) :
    reportOf statement v ∈ (after statement scan vs).unresolved := by
  obtain ⟨behind, hafter⟩ := h.exists_after
  rw [hafter]
  refine (unresolved_prefix_after _ _).subset ?_
  rcases visit_cases statement v.1 (after statement scan before) v.2
    with ⟨⟨s, hs, hoverlap⟩, -⟩ | ⟨-, ⟨-, heq⟩ | ⟨new, hnew, -⟩⟩
  · rw [h.untouched s hs] at hoverlap
    exact absurd hoverlap (by simp)
  · rw [heq]
    exact List.mem_append_right _ (List.mem_singleton.mpr rfl)
  · exact absurd (hnone.symm.trans hnew) (by simp)

/-- **A replacement that further visits have added** was added when one of them was treated. -/
lemma exists_treats_of_mem_splices : ∀ {vs : List (Family × Occurrence)} {scan : Scan},
    splice ∈ (after statement scan vs).splices →
    splice ∈ scan.splices
      ∨ ∃ before v, Treats statement scan vs before v ∧ spliceOf? v = some splice
  | [], _, h => Or.inl h
  | v :: vs, scan, h => by
      rw [after] at h
      rcases exists_treats_of_mem_splices h with hstep | ⟨before, w, htreats, hsplice⟩
      · rcases visit_cases statement v.1 scan v.2
          with ⟨-, heq⟩ | ⟨hapart, ⟨-, heq⟩ | ⟨new, hnew, heq⟩⟩
        · rw [heq] at hstep
          exact Or.inl hstep
        · rw [heq] at hstep
          exact Or.inl hstep
        · rw [heq] at hstep
          rcases Splice.mem_insert.mp hstep with rfl | hold
          · exact Or.inr ⟨[], v, ⟨by simp, hapart⟩, hnew⟩
          · exact Or.inl hold
      · exact Or.inr ⟨v :: before, w, htreats.cons, hsplice⟩

lemma mem_splices_after (h : splice ∈ (after statement scan vs).splices) :
    splice ∈ scan.splices ∨ ∃ v ∈ vs, spliceOf? v = some splice :=
  (exists_treats_of_mem_splices h).imp_right fun ⟨_, v, htreats, hsplice⟩ =>
    ⟨v, htreats.mem, hsplice⟩

end Treats

/-! ## The whole scan -/

lemma start_lt_stop_of_mem_visits {families : List Family} {statement : Text}
    {v : Family × Occurrence} (h : v ∈ visits families statement) : v.2.start < v.2.stop := by
  have hlt := Shape.start_lt_stop
    (Shape.mem_candidates_of_mem_occurrences (mem_visits_iff.mp h).2)
  omega

/-- **The replacements of a scan** are in order. -/
theorem ordered_run (families : List Family) (statement : Text) :
    Splice.Ordered (run families statement).splices := by
  rw [run_eq_after]
  exact ordered_after (fun _ => start_lt_stop_of_mem_visits) ⟨by simp, List.Pairwise.nil⟩

/-- **Every replacement comes from a visit** whose argument some form accepts. -/
theorem mem_splices_run {families : List Family} {statement : Text} {splice : Splice}
    (h : splice ∈ (run families statement).splices) :
    ∃ v ∈ visits families statement, spliceOf? v = some splice := by
  rw [run_eq_after] at h
  rcases mem_splices_after h with h | h
  · exact absurd h (by simp)
  · exact h

/-- **No visit is forgotten.** -/
theorem settled_run {families : List Family} {statement : Text} {v : Family × Occurrence}
    (h : v ∈ visits families statement) : Settled statement (run families statement) v := by
  rw [run_eq_after]
  exact settled_after (start_lt_stop_of_mem_visits h) h

lemma run_append (families families' : List Family) (statement : Text) :
    run (families ++ families') statement
      = after statement (run families statement) (visits families' statement) := by
  rw [run_eq_after, run_eq_after, visits, List.flatMap_append, after_append]
  rfl

/-- Replacements that share a character are the same. -/
lemma eq_of_overlap {families : List Family} {statement : Text} {a b : Splice}
    (ha : a ∈ (run families statement).splices) (hb : b ∈ (run families statement).splices)
    (hab : a.start < b.stop) (hba : b.start < a.stop) : a = b := by
  have hpairs := (ordered_run families statement).2
  refine List.Pairwise.forall_of_forall_of_flip
    (R := fun x y => x.start < y.stop → y.start < x.stop → x = y) ?_ ?_ ?_ ha hb hab hba
  · exact fun _ _ _ _ => rfl
  · exact hpairs.imp fun hsep _ hlt => absurd hsep (by omega)
  · exact hpairs.imp fun hsep hlt _ => absurd hsep (by omega)

/-- **An occurrence that the families in front of its own leave alone** is replaced, or reported if
    no form accepts it. -/
theorem run_of_untouched {before : List Family} (behind : List Family) {family : Family}
    {statement : Text} {o : Occurrence} (ho : o ∈ family.shape.occurrences statement)
    (huntouched : ∀ splice ∈ (run before statement).splices,
      o.overlaps splice.start splice.stop = false) :
    (∀ splice, spliceOf? (family, o) = some splice →
        splice ∈ (run (before ++ family :: behind) statement).splices)
      ∧ (spliceOf? (family, o) = none →
        reportOf statement (family, o) ∈ (run (before ++ family :: behind) statement).unresolved) := by
  obtain ⟨left, right, hsplit⟩ := List.append_of_mem ho
  have hnext : left.map (fun p => (family, p)) ++ [(family, o)]
      <+: visits (family :: behind) statement :=
    ⟨right.map (fun p => (family, p)) ++ visits behind statement, by simp [visits, hsplit]⟩
  -- up to its visit the family has replaced only what stands to its left
  have htreats : Treats statement (run before statement) (visits (family :: behind) statement)
      (left.map fun p => (family, p)) (family, o) := by
    refine ⟨hnext, fun splice hsplice => ?_⟩
    rcases mem_splices_after hsplice with h | ⟨v, hv, hcode⟩
    · exact huntouched splice h
    · obtain ⟨p, hp, rfl⟩ := List.mem_map.mp hv
      obtain ⟨code, -, rfl⟩ := Option.map_eq_some_iff.mp hcode
      have hpairs := Shape.pairwise_occurrences family.shape statement
      rw [hsplit] at hpairs
      have hle : p.stop ≤ o.start := (List.pairwise_append.mp hpairs).2.2 p hp o (by simp)
      simp only [Occurrence.overlaps, Bool.and_eq_false_iff, decide_eq_false_iff_not]
      exact Or.inl (by omega)
  rw [run_append]
  exact ⟨fun _ => htreats.mem_splices, htreats.mem_unresolved⟩

/-- **Where the visited occurrences are apart**, the result can be read off the visits. -/
theorem run_of_apart {families : List Family} {statement : Text}
    (h : (visits families statement).Pairwise
      fun v w => v.2.stop ≤ w.2.start ∨ w.2.stop ≤ v.2.start) :
    (run families statement).splices.Perm ((visits families statement).filterMap spliceOf?)
      ∧ (run families statement).unresolved
        = ((visits families statement).filter fun v => (spliceOf? v).isNone).map
            (reportOf statement) := by
  rw [run_eq_after]
  exact after_of_apart _ {} h (by simp)

end Scan

end ScenarioScript
