import ScenarioScript.Proofs.Placeholder.Templates
import ScenarioScript.Proofs.Statement.Rewriting

/-!
# Whether a reported placeholder stays in the text

A placeholder that no form accepts is reported and left where it is.  But a visit only asks whether
it meets something that has been *replaced*, not whether it meets something that has been reported.
So a family that is applied later may still write its code into a placeholder that is reported
already.

* `Stays` — **an occurrence stays**: in the text it stands between what becomes of the text in front
  of it and what becomes of the text behind it.
* `assemble_split` — replacements on both sides of a cut are written independently of each other.
* `stays_iff` — an occurrence stays exactly if no replacement shares a character with it.
* `Scan.Treats.cases` — of two moments of a scan one comes before the other.
* `Disturbed` — a later visit replaces an occurrence that shares a character with an earlier one.
* `reports_stay_iff` — **a reported placeholder stays** exactly if it is not disturbed.  In a
  sentence, where placeholders do not meet, all of them stay.
* `not_stays_of_click_inside_visit` — a statement in which one does not.
-/

namespace ScenarioScript

/-! ## Occurrences that stay -/

/-- **An occurrence stays in the text.** The replacements fall into those in front of it and those
    behind it, and the text is what they make of the statement on either side, with the occurrence
    in between. -/
def Stays (families : List Family) (statement : Text) (o : Occurrence) : Prop :=
  ∃ left right, (Scan.run families statement).splices = left ++ right
    ∧ (∀ splice ∈ left, splice.stop ≤ o.start) ∧ (∀ splice ∈ right, o.stop ≤ splice.start)
    ∧ (resolveWith families statement).text
      = Scan.assemble 0 (statement.take o.start) left
        ++ (statement.take o.stop).drop o.start
        ++ Scan.assemble o.stop (statement.drop o.stop) right

lemma Stays.contained {families : List Family} {statement : Text} {o : Occurrence}
    (h : Stays families statement o) :
    (statement.take o.stop).drop o.start <:+: (resolveWith families statement).text := by
  obtain ⟨left, right, -, -, -, htext⟩ := h
  exact ⟨_, _, htext.symm⟩

/-- **Writing on both sides of a cut.** -/
lemma assemble_split {cut : Nat} {right : List Splice} (hright : ∀ s ∈ right, cut ≤ s.start) :
    ∀ {left : List Splice} {position : Nat} {rest : Text}, position ≤ cut →
      cut ≤ position + rest.length → Splice.Ordered (left ++ right) →
      (∀ s ∈ left, position ≤ s.start ∧ s.stop ≤ cut) →
      Scan.assemble position rest (left ++ right)
        = Scan.assemble position (rest.take (cut - position)) left
          ++ Scan.assemble cut (rest.drop (cut - position)) right
  | [], position, rest, hposition, hlength, hordered, _ => by
      have htake : (rest.take (cut - position)).length = cut - position := by
        rw [List.length_take]
        omega
      have hcut : position + (rest.take (cut - position)).length = cut := by omega
      have happend := Sentence.assemble_append (rest.take (cut - position))
        (rest.drop (cut - position)) (fun s hs => Nat.le_of_lt (hordered.1 s hs))
        (hcut.symm ▸ hright)
      rw [List.take_append_drop, hcut] at happend
      exact happend
  | splice :: left, position, rest, hposition, hlength, hordered, hleft => by
      obtain ⟨⟨hstart, hstop⟩, hleft'⟩ := List.forall_mem_cons.mp hleft
      have hhead := (List.pairwise_cons.mp hordered.2).1
      have hproper := hordered.1 splice (by simp)
      have ih :
          Scan.assemble splice.stop (rest.drop (splice.stop - position)) (left ++ right) = _ :=
        assemble_split hright hstop (by rw [List.length_drop]; omega) hordered.tail
          (fun s hs => ⟨hhead s (List.mem_append_left _ hs), (hleft' s hs).2⟩)
      -- the same cut, seen from the end of the first replacement
      have htake : min (splice.start - position) (cut - position) = splice.start - position := by
        omega
      have hinner : cut - position - (splice.stop - position) = cut - splice.stop := by omega
      have houter : splice.stop - position + (cut - splice.stop) = cut - position := by omega
      rw [List.cons_append, Scan.assemble, Scan.assemble, ih, List.take_take, List.drop_drop,
        List.drop_take, htake, hinner, houter]
      simp only [List.append_assoc]

/-- Ordered replacements that leave an occurrence alone lie on its two sides. -/
lemma Splice.exists_append_of_apart {o : Occurrence} (hproper : o.start < o.stop) :
    ∀ {splices : List Splice}, Splice.Ordered splices →
      (∀ s ∈ splices, o.overlaps s.start s.stop = false) →
      ∃ left right, splices = left ++ right
        ∧ (∀ s ∈ left, s.stop ≤ o.start) ∧ ∀ s ∈ right, o.stop ≤ s.start
  | [], _, _ => ⟨[], [], rfl, by simp, by simp⟩
  | splice :: splices, hordered, hapart => by
      obtain ⟨hsplice, hapart'⟩ := List.forall_mem_cons.mp hapart
      have hhead := (List.pairwise_cons.mp hordered.2).1
      have hsplice' := hordered.1 splice (by simp)
      simp only [Occurrence.overlaps, Bool.and_eq_false_iff, decide_eq_false_iff_not] at hsplice
      by_cases hfront : splice.stop ≤ o.start
      · obtain ⟨left, right, rfl, hleft, hright⟩ :=
          Splice.exists_append_of_apart hproper hordered.tail hapart'
        exact ⟨splice :: left, right, rfl, List.forall_mem_cons.mpr ⟨hfront, hleft⟩, hright⟩
      · -- the first replacement lies behind the occurrence, and so do all others
        refine ⟨[], splice :: splices, rfl, by simp, List.forall_mem_cons.mpr ⟨by omega, ?_⟩⟩
        intro s hs
        have hle := hhead s hs
        omega

/-- **An occurrence stays** exactly if no replacement shares a character with it. -/
lemma stays_iff {families : List Family} {shape : Shape} {statement : Text} {o : Occurrence}
    (h : o ∈ shape.occurrences statement) :
    Stays families statement o
      ↔ ∀ s ∈ (Scan.run families statement).splices, o.overlaps s.start s.stop = false := by
  have hproper := Shape.start_lt_stop (Shape.mem_candidates_of_mem_occurrences h)
  constructor
  · rintro ⟨left, right, hsplices, hleft, hright, -⟩ s hs
    simp only [Occurrence.overlaps, Bool.and_eq_false_iff, decide_eq_false_iff_not]
    rcases List.mem_append.mp (hsplices ▸ hs) with hs | hs
    · have hle := hleft s hs
      omega
    · have hle := hright s hs
      omega
  · intro hapart
    have hordered := Scan.ordered_run families statement
    obtain ⟨left, right, hsplices, hleft, hright⟩ :=
      Splice.exists_append_of_apart (by omega) hordered hapart
    obtain ⟨hcut, hstop, hlength⟩ := drop_eq_of_mem_occurrences h (le_refl o.start)
    rw [Nat.sub_self, List.take_zero, List.nil_append] at hcut
    rw [hsplices] at hordered
    have hright' : ∀ s ∈ right, o.start ≤ s.start := fun s hs => by
      have hle := hright s hs
      omega
    -- the text is cut where the occurrence starts, and the occurrence is kept behind the cut
    have hsides : Scan.assemble 0 statement (left ++ right) = _ :=
      assemble_split hright' (Nat.zero_le o.start) (by omega) hordered
        fun s hs => ⟨Nat.zero_le _, hleft s hs⟩
    have hbehind := Sentence.assemble_append (shape.token o.argument) (statement.drop o.stop)
      (fun s hs => Nat.le_of_lt (hordered.1 s (List.mem_append_right _ hs))) (hstop ▸ hright)
    refine ⟨left, right, hsplices, hleft, hright, ?_⟩
    show Scan.assemble 0 statement (Scan.run families statement).splices = _
    rw [hsplices, hsides, Nat.sub_zero, hcut, hbehind, ← hstop, token_eq_of_mem_occurrences h,
      List.append_assoc]

/-! ## Later visits -/

/-- **Two moments of a scan**: one comes before the other, or they are the same. -/
lemma Scan.Treats.cases {statement : Text} {scan : Scan}
    {vs before before' : List (Family × Occurrence)} {v w : Family × Occurrence}
    (h : Treats statement scan vs before v) (h' : Treats statement scan vs before' w) :
    Treats statement scan before before' w ∨ w = v
      ∨ ∃ between, before' = before ++ v :: between := by
  rcases List.prefix_or_prefix_of_prefix h.next h'.next with hle | hle
  · rcases List.prefix_concat_iff.mp hle with heq | ⟨between, rfl⟩
    · exact .inr (.inl (List.cons.inj (List.append_inj' heq rfl).2).1.symm)
    · exact .inr (.inr ⟨between, by simp⟩)
  · rcases List.prefix_concat_iff.mp hle with heq | hearlier
    · exact .inr (.inl (List.cons.inj (List.append_inj' heq rfl).2).1)
    · exact .inl ⟨hearlier, h'.untouched⟩

/-- **A later visit disturbs an occurrence** that is treated behind the visits `before`: it replaces
    one that shares a character with it. -/
def Disturbed (families : List Family) (statement : Text) (before : List (Family × Occurrence))
    (v : Family × Occurrence) : Prop :=
  ∃ between w, Scan.Treats statement {} (visits families statement) (before ++ v :: between) w
    ∧ (spliceOf? w).isSome = true ∧ v.2.overlaps w.2.start w.2.stop = true

/-- **A reported occurrence stays** exactly if no later visit disturbs it. -/
lemma stays_iff_not_disturbed {families : List Family} {statement : Text}
    {before : List (Family × Occurrence)} {v : Family × Occurrence}
    (h : Scan.Treats statement {} (visits families statement) before v)
    (hnone : spliceOf? v = none) :
    Stays families statement v.2 ↔ ¬ Disturbed families statement before v := by
  rw [stays_iff (mem_visits_iff.mp h.mem).2, Scan.run_eq_after]
  constructor
  · rintro hapart ⟨between, w, hw, hsome, hoverlap⟩
    obtain ⟨splice, hsplice⟩ := Option.isSome_iff_exists.mp hsome
    have hno := hapart splice (hw.mem_splices hsplice)
    obtain ⟨code, -, rfl⟩ := Option.map_eq_some_iff.mp hsplice
    rw [hno] at hoverlap
    exact absurd hoverlap (by simp)
  · intro hcalm splice hmem
    rcases Scan.exists_treats_of_mem_splices hmem with h' | ⟨before', w, hw, hsplice⟩
    · exact absurd h' (by simp)
    -- what was replaced by then does not touch the occurrence, and what comes later must not
    rcases h.cases hw with hearlier | rfl | ⟨between, rfl⟩
    · exact h.untouched splice (hearlier.mem_splices hsplice)
    · exact absurd (hnone.symm.trans hsplice) (by simp)
    · rw [Bool.eq_false_iff]
      intro hoverlap
      refine hcalm ⟨between, w, hw, by simp [hsplice], ?_⟩
      obtain ⟨code, -, rfl⟩ := Option.map_eq_some_iff.mp hsplice
      exact hoverlap

/-- In a sentence nothing is disturbed. -/
lemma Sentence.not_disturbed (sentence : Sentence) {before : List (Family × Occurrence)}
    {v : Family × Occurrence} : ¬ Disturbed registry sentence.text before v := by
  rintro ⟨between, w, hw, -, hoverlap⟩
  have hpairs := (visits_apart (List.Subset.refl registry) Placeholder.nodup_registry
    sentence).sublist hw.next.sublist
  have hapart := (List.pairwise_append.mp hpairs).2.2 v (by simp) w (by simp)
  simp only [Occurrence.overlaps, Bool.and_eq_true, decide_eq_true_eq] at hoverlap
  omega

/-- **Which reported placeholders stay in the text.**

    * Every report is about an occurrence at its moment in the scan.  The occurrence stays, where it
      stood, exactly if no later visit disturbs it.
    * If the statement is a sentence, all of them stay. -/
theorem reports_stay_iff (statement : Text) :
    (∀ earlier entry later, (resolve statement).unresolved = earlier ++ entry :: later →
        ∃ before family o, Scan.Treats statement {} (visits registry statement) before (family, o)
          ∧ (Scan.after statement {} before).unresolved = earlier
          ∧ entry = ⟨family.tag, (statement.take o.stop).drop o.start, statement⟩
          ∧ (Stays registry statement o ↔ ¬ Disturbed registry statement before (family, o)))
      ∧ ∀ sentence : Sentence, sentence.text = statement →
        ∀ entry ∈ (resolve statement).unresolved,
          ∃ family o, (family, o) ∈ visits registry statement
            ∧ entry = ⟨family.tag, (statement.take o.stop).drop o.start, statement⟩
            ∧ Stays registry statement o := by
  refine ⟨fun earlier entry later h => ?_, ?_⟩
  · obtain ⟨before, ⟨family, o⟩, htreats, hnone, hearlier, rfl⟩ :=
      Scan.exists_treats_of_unresolved h
    exact ⟨before, family, o, htreats, hearlier, reportOf_of_mem_visits htreats.mem,
      stays_iff_not_disturbed htreats hnone⟩
  · rintro sentence rfl entry hentry
    obtain ⟨earlier, later, h⟩ := List.append_of_mem hentry
    obtain ⟨before, ⟨family, o⟩, htreats, hnone, -, rfl⟩ := Scan.exists_treats_of_unresolved h
    exact ⟨family, o, htreats.mem, reportOf_of_mem_visits htreats.mem,
      (stays_iff_not_disturbed htreats hnone).mpr sentence.not_disturbed⟩

/-- The case of a placeholder that stays between two that are replaced. -/
theorem reports_stay_between_clicks :
    let statement := "<click_a> <visit_home> <click_b>".toText
    let entry : Unresolved := ⟨.visit, "<visit_home>".toText, statement⟩
    (resolve statement).unresolved = [] ++ entry :: []
      ∧ ∃ before family o,
          Scan.Treats statement {} (visits registry statement) before (family, o)
            ∧ entry = ⟨family.tag, (statement.take o.stop).drop o.start, statement⟩
            ∧ ¬ Disturbed registry statement before (family, o)
            ∧ Stays registry statement o
            ∧ entry.text <:+: "cy.get('a').click() <visit_home> cy.get('b').click()".toText := by
  intro statement entry
  have hresolve : resolve statement
      = ⟨"cy.get('a').click() <visit_home> cy.get('b').click()".toText, [entry]⟩ := by
    decide +kernel
  have hunresolved : (resolve statement).unresolved = [] ++ entry :: [] := by rw [hresolve]; rfl
  obtain ⟨before, family, o, htreats, -, hentry, hstays⟩ :=
    (reports_stay_iff statement).1 [] entry [] hunresolved
  let sentence : Sentence :=
    .step [] (by decide) ⟨.click, "a".toText, by decide, by decide⟩
      (.step " ".toText (by decide) ⟨.visit, "home".toText, by decide, by decide⟩
        (.step " ".toText (by decide) ⟨.click, "b".toText, by decide, by decide⟩
          (.last [] (by decide))))
  have hcalm : ¬ Disturbed registry statement before (family, o) :=
    sentence.not_disturbed
  have hcontained := (hstays.mpr hcalm).contained
  rw [show resolveWith registry statement = _ from hresolve] at hcontained
  exact ⟨hunresolved, before, family, o, htreats, hentry, hcalm, hstays.mpr hcalm,
    hentry ▸ hcontained⟩

/-- **A reported placeholder that does not stay**: the code of a family that is applied later is
    written into it. -/
theorem not_stays_of_click_inside_visit :
    (let statement := "<visit_<click_a>".toText
      let entry : Unresolved := ⟨.visit, statement, statement⟩
      (resolve statement).unresolved = [entry]
        ∧ (resolve statement).text = "<visit_cy.get('a').click()".toText
        ∧ ¬ entry.text <:+: (resolve statement).text)
      ∧ ¬ ∀ statement, ∀ entry ∈ (resolve statement).unresolved,
          entry.text <:+: (resolve statement).text := by
  have hresolve : resolve "<visit_<click_a>".toText
      = ⟨"<visit_cy.get('a').click()".toText,
        [⟨.visit, "<visit_<click_a>".toText, "<visit_<click_a>".toText⟩]⟩ := by
    decide +kernel
  have hlost : ¬ "<visit_<click_a>".toText <:+: (resolve "<visit_<click_a>".toText).text := by
    rw [hresolve]
    decide
  refine ⟨⟨by rw [hresolve], by rw [hresolve], hlost⟩, fun h => hlost ?_⟩
  refine h _ ⟨.visit, "<visit_<click_a>".toText, "<visit_<click_a>".toText⟩ ?_
  rw [hresolve]
  exact List.mem_singleton.mpr rfl

end ScenarioScript
