import ScenarioScript.Proofs.Placeholder.Leftmost
import ScenarioScript.Proofs.Statement.Faults
import ScenarioScript.Proofs.Statement.Scan

/-!
# Validation and resolution on the same placeholders

Validation reads tokens with one shape, resolution reads placeholders with the shape of each family.
A statement **agrees** if both mean the same: what is replaced lies inside a token, and a token
inside which nothing is replaced is reported.

Accepted statements need not agree.  The shape of a family wants a character behind its lead, so
that in `<click_> <click_a>` its argument runs over the end of the token `<click_>`.  Such an
occurrence **overruns**, and it is the only cause:

* `inToken_iff_not_overruns` — an occurrence lies inside a token exactly if it does not overrun.
* `overruns_leading_iff` — what overruns is a placeholder without an argument.
* `agrees_iff_of_validate` — **an accepted statement agrees** exactly if every overrunning
  occurrence is harmless: it is not replaced, and no token that it hides stays without a report.
* `not_agrees_of_hidden_click` — an accepted statement that does not agree.
-/

namespace ScenarioScript

/-! ## Agreement -/

/-- The characters from `start` up to `stop` lie inside one token. -/
def InToken (statement : Text) (start stop : Nat) : Prop :=
  ∃ t ∈ Shape.any.occurrences statement, t.start ≤ start ∧ stop ≤ t.stop

/-- **A token is covered** if something inside it is replaced, or if it is reported. -/
def Covered (statement : Text) (t : Occurrence) : Prop :=
  (∃ splice ∈ (Scan.run registry statement).splices,
      t.start ≤ splice.start ∧ splice.stop ≤ t.stop)
    ∨ ∃ report ∈ (resolve statement).unresolved, report.text = Shape.any.token t.argument

/-- **Validation and resolution agree**: every replacement lies inside a token, and every token is
    covered. -/
def Agrees (statement : Text) : Prop :=
  (∀ splice ∈ (Scan.run registry statement).splices,
      InToken statement splice.start splice.stop)
    ∧ ∀ t ∈ Shape.any.occurrences statement, Covered statement t

/-- **An occurrence overruns** if no token that can be read where it starts reaches its end. -/
def Overruns (statement : Text) (o : Occurrence) : Prop :=
  ∀ t ∈ Shape.any.candidates statement, t.start = o.start → t.stop < o.stop

/-- **An occurrence is harmless** if it is not replaced itself, and if every token of its family
    that starts behind its opening bracket is covered. -/
def Harmless (statement : Text) (family : Family) (o : Occurrence) : Prop :=
  (∀ splice ∈ (Scan.run registry statement).splices,
      ¬ (splice.start = o.start ∧ splice.stop = o.stop))
    ∧ ∀ t ∈ Shape.any.occurrences statement,
        family.shape.accepts (Shape.any.token t.argument) = true →
        o.start < t.start → t.start < o.stop → Covered statement t

instance (statement : Text) (start stop : Nat) : Decidable (InToken statement start stop) :=
  inferInstanceAs (Decidable (∃ t ∈ _, _))

instance (statement : Text) (t : Occurrence) : Decidable (Covered statement t) :=
  inferInstanceAs (Decidable (_ ∨ _))

instance (statement : Text) : Decidable (Agrees statement) :=
  inferInstanceAs (Decidable (_ ∧ _))

instance (statement : Text) (o : Occurrence) : Decidable (Overruns statement o) :=
  inferInstanceAs (Decidable (∀ t ∈ _, _))

instance (statement : Text) (family : Family) (o : Occurrence) :
    Decidable (Harmless statement family o) :=
  inferInstanceAs (Decidable (_ ∧ _))

/-! ## Occurrences and tokens -/

/-- Every family's placeholders begin with `<` and a character other than `>`. -/
lemma Tag.exists_mark_eq (tag : Tag) :
    ∃ c rest, tag.shape.mark = char '<' :: c :: rest ∧ c ≠ char '>' := by
  cases tag <;> exact ⟨_, _, rfl, by decide⟩

lemma mark_prefix_of_mem_candidates {shape : Shape} {statement : Text} {o : Occurrence}
    (h : o ∈ shape.candidates statement) : shape.mark <+: statement.drop o.start := by
  have hread := (Shape.mem_candidates_iff.mp h).1
  by_contra hno
  rw [Shape.argumentAt?_eq_none hno] at hread
  exact absurd hread (by simp)

/-- The characters of a text that stands at some offset. -/
lemma getElem?_of_prefix_drop {part statement : Text} {start i : Nat}
    (h : part <+: statement.drop start) (hi : i < part.length) :
    statement[start + i]? = part[i]? := by
  have hget := List.prefix_iff_getElem?.mp h i hi
  rw [List.getElem?_drop] at hget
  rw [hget, List.getElem?_eq_getElem hi]

lemma three_le_length_of_mem_candidates {tag : Tag} {statement : Text} {o : Occurrence}
    (h : o ∈ tag.shape.candidates statement) : o.start + 3 ≤ o.stop := by
  by_cases htag : tag = .finish
  · subst htag
    obtain ⟨hread, hstop⟩ := Shape.mem_candidates_iff.mp h
    obtain ⟨rest, -, hargument⟩ := Option.map_eq_some_iff.mp hread
    rw [← hargument] at hstop
    have hlength : (Tag.finish.shape.token Tag.finish.word).length = 5 := by decide
    omega
  · rw [(Tag.shape_eq_leading htag).1] at h
    obtain ⟨close, hspans, hstop, -⟩ := Shape.mem_candidates_leading_iff.mp h
    have hle := hspans.reaches.least_le
    omega

/-- **How an occurrence of a family begins.** -/
lemma opening_of_mem_candidates {tag : Tag} {statement : Text} {o : Occurrence}
    (h : o ∈ tag.shape.candidates statement) :
    statement[o.start]? = some (char '<') ∧ statement[o.start + 1]? ≠ some (char '>') := by
  obtain ⟨c, rest, hmark, hc⟩ := tag.exists_mark_eq
  have hprefix := mark_prefix_of_mem_candidates h
  rw [hmark] at hprefix
  refine ⟨getElem?_of_prefix_drop hprefix (i := 0) (by simp), ?_⟩
  rw [getElem?_of_prefix_drop hprefix (by simp)]
  simpa using hc

/-- The offsets of a token that can be read in a statement. -/
lemma reaches_of_mem_candidates_any {statement : Text} {t : Occurrence}
    (h : t ∈ Shape.any.candidates statement) :
    ∃ close, t.stop = close + 1
      ∧ Shape.Reaches statement (t.start + 1) (t.start + 2) close := by
  obtain ⟨close, hspans, hstop, -⟩ := Shape.mem_candidates_leading_iff.mp h
  exact ⟨close, hstop, hspans.reaches⟩

/-- A token can be read wherever a bracket opens and the reading comes to an end. -/
lemma exists_mem_candidates_any {statement : Text} {start close : Nat}
    (hopen : statement[start]? = some (char '<'))
    (hreach : Shape.Reaches statement (start + 1) (start + 2) close) :
    ∃ t ∈ Shape.any.candidates statement, t.start = start ∧ t.stop = close + 1 := by
  have hopens : [char '<'] <+: statement.drop start := by
    obtain ⟨hlt, hget⟩ := List.getElem?_eq_some_iff.mp hopen
    rw [List.drop_eq_getElem_cons hlt, hget]
    exact ⟨_, rfl⟩
  exact ⟨⟨start, close + 1, (statement.take close).drop (start + 1)⟩,
    Shape.mem_candidates_leading_iff.mpr ⟨close, ⟨hopens, hreach⟩, rfl, rfl⟩, rfl, rfl⟩

/-- **An occurrence lies inside a token exactly if it does not overrun.** -/
theorem inToken_iff_not_overruns {tag : Tag} {statement : Text} {o : Occurrence}
    (h : o ∈ tag.shape.candidates statement) :
    InToken statement o.start o.stop ↔ ¬ Overruns statement o := by
  obtain ⟨hopen, hnext⟩ := opening_of_mem_candidates h
  have hlong := three_le_length_of_mem_candidates h
  constructor
  · rintro ⟨t, ht, hstart, hstop⟩ hover
    -- the end of the token around it is also the end of one that starts with it
    obtain ⟨close, htstop, hreach⟩ :=
      reaches_of_mem_candidates_any (Shape.mem_candidates_of_mem_occurrences ht)
    have hinner : Shape.Reaches statement (o.start + 1) (o.start + 2) close :=
      ⟨by omega, hreach.closes, fun k hk => hreach.first k (by omega),
        fun k hk => hreach.oneLine k (by omega)⟩
    obtain ⟨t', ht', hstart', hstop'⟩ := exists_mem_candidates_any hopen hinner
    have hshort := hover t' ht' hstart'
    omega
  · intro hno
    simp only [Overruns, not_forall, Nat.not_lt] at hno
    obtain ⟨t, ht, hstart, hstop⟩ := hno
    obtain ⟨t', ht', rfl | ⟨hbefore, hbehind⟩⟩ := Shape.exists_mem_occurrences ht
    · exact ⟨t', ht', by omega, hstop⟩
    · -- the token that is found starts earlier, and cannot end before the one that starts here
      obtain ⟨close, hclose, hreach⟩ := reaches_of_mem_candidates_any ht
      obtain ⟨close', hclose', hreach'⟩ :=
        reaches_of_mem_candidates_any (Shape.mem_candidates_of_mem_occurrences ht')
      have hne : close' ≠ o.start := by
        rintro rfl
        exact absurd (hopen.symm.trans hreach'.closes.1) (by decide)
      have hne' : close' ≠ o.start + 1 := by
        rintro rfl
        exact hnext hreach'.closes.1
      have hle : close ≤ close' := by
        by_contra hlt
        exact hreach.first close' (by omega) (by omega) hreach'.closes
      exact ⟨t', ht', by omega, by omega⟩

/-- **What overruns is a placeholder without an argument**: the bracket right behind its lead ends
    a token. -/
theorem overruns_leading_iff {lead statement : Text} {o : Occurrence} (hlead : lead ≠ [])
    (hclose : char '>' ∉ lead) (hline : char '\n' ∉ lead)
    (h : o ∈ (Shape.leading lead).candidates statement) :
    Overruns statement o ↔ Shape.Closes statement (o.start + lead.length + 1) := by
  obtain ⟨close, ⟨hopens, hreach⟩, hstop, -⟩ := Shape.mem_candidates_leading_iff.mp h
  have hlength : 0 < lead.length := List.length_pos_iff.mpr hlead
  have hle := hreach.least_le
  have hinlead : ∀ {k : Nat} {c : Letter}, o.start + 1 ≤ k → k < o.start + lead.length + 1 →
      statement[k]? = some c → c ∈ lead := by
    intro k c hk hk' hget
    obtain ⟨i, rfl⟩ := Nat.exists_eq_add_of_le hk
    rw [Nat.add_assoc, Nat.add_comm 1 i,
      getElem?_of_prefix_drop hopens (by rw [List.length_cons]; omega),
      List.getElem?_cons_succ] at hget
    exact List.mem_of_getElem? hget
  constructor
  · intro hover
    by_contra hno
    have honeline : ∀ k, o.start + 1 ≤ k → k < close → statement[k]? ≠ some (char '\n') := by
      intro k hk hk' hget
      by_cases hinside : k < o.start + lead.length + 1
      · exact hline (hinlead hk hinside hget)
      · exact hreach.oneLine k (by omega) hk' hget
    have hopen : statement[o.start]? = some (char '<') :=
      getElem?_of_prefix_drop hopens (i := 0) (by simp)
    have hroom : o.start + 2 ≤ close := by omega
    obtain ⟨close', hle', hreach'⟩ :=
      Shape.Reaches.exists_of_closes hroom hreach.closes honeline
    obtain ⟨t, ht, hstart, htstop⟩ := exists_mem_candidates_any hopen hreach'
    have hshort := hover t ht hstart
    -- an earlier bracket would stand in the lead, right behind it, or in the argument
    have hleast := hreach'.least_le
    rcases Nat.lt_trichotomy close' (o.start + lead.length + 1) with hlt | rfl | hgt
    · exact hclose (hinlead (by omega) hlt hreach'.closes.1)
    · exact hno hreach'.closes
    · exact hreach.first close' (by omega) (by omega) hreach'.closes
  · intro hcloses t ht hstart
    obtain ⟨close', htstop, hreach'⟩ := reaches_of_mem_candidates_any ht
    have hle' : close' ≤ o.start + lead.length + 1 := by
      by_contra hlt
      exact hreach'.first _ (by omega) (by omega) hcloses
    omega

/-! ## Accepted statements -/

/-- Each token of an accepted statement has the shape of some family. -/
lemma exists_family_of_validate {suggester : Suggester} {statement : Text}
    (hvalid : suggester.validate statement = .ok ()) {t : Occurrence}
    (ht : t ∈ Shape.any.occurrences statement) :
    ∃ family ∈ registry, family.shape.accepts (Shape.any.token t.argument) = true := by
  have hall := (suggester.validate_eq_ok_iff statement).mp hvalid
  exact isInvalidToken_eq_false_iff.mp (hall _ (List.mem_map_of_mem ht))

/-- A token that its family's scan meets is covered, if all replacements lie inside tokens. -/
lemma covered_of_mem_occurrences {statement : Text}
    (hinside : ∀ splice ∈ (Scan.run registry statement).splices,
      InToken statement splice.start splice.stop)
    {t o : Occurrence} (ht : t ∈ Shape.any.occurrences statement) {family : Family}
    (hfamily : family ∈ registry) (ho : o ∈ family.shape.occurrences statement)
    (hstart : o.start = t.start) (hstop : o.stop = t.stop)
    (htoken : family.shape.token o.argument = Shape.any.token t.argument) :
    Covered statement t := by
  rcases Scan.settled_run (mem_visits_iff.mpr ⟨hfamily, ho⟩)
    with ⟨splice, hsplice, hoverlap⟩ | hreport
  · -- the replacement that touches it lies in a token, which can be no other
    obtain ⟨t', ht', hle, hle'⟩ := hinside splice hsplice
    have hproper := (Scan.ordered_run registry statement).1 splice hsplice
    simp only [Occurrence.overlaps, Bool.and_eq_true, decide_eq_true_eq] at hoverlap
    obtain rfl : t' = t := Shape.eq_of_overlap ht' ht (by omega) (by omega)
    exact Or.inl ⟨splice, hsplice, hle, hle'⟩
  · exact Or.inr ⟨_, hreport, htoken⟩

/-- Where no overrunning occurrence is replaced, every replacement lies inside a token. -/
lemma inToken_of_harmless {statement : Text}
    (hharmless : ∀ family ∈ registry, ∀ o ∈ family.shape.occurrences statement,
      Overruns statement o → Harmless statement family o) :
    ∀ splice ∈ (Scan.run registry statement).splices,
      InToken statement splice.start splice.stop := by
  intro splice hsplice
  obtain ⟨⟨family, o⟩, hv, hsome⟩ := Scan.mem_splices_run hsplice
  obtain ⟨hfamily, ho⟩ := mem_visits_iff.mp hv
  obtain ⟨code, -, rfl⟩ := Option.map_eq_some_iff.mp hsome
  refine (inToken_iff_not_overruns (Shape.mem_candidates_of_mem_occurrences ho)).mpr ?_
  intro hover
  exact (hharmless family hfamily o ho hover).1 _ hsplice ⟨rfl, rfl⟩

/-- An occurrence in which a token of the statement starts, behind its opening bracket, overruns. -/
lemma overruns_of_hides {tag : Tag} {statement : Text} {o t : Occurrence}
    (ho : o ∈ tag.shape.occurrences statement) (ht : t ∈ Shape.any.occurrences statement)
    (hbefore : o.start < t.start) (hbehind : t.start < o.stop) : Overruns statement o := by
  by_contra hno
  obtain ⟨t', ht', hle, hle'⟩ :=
    (inToken_iff_not_overruns (Shape.mem_candidates_of_mem_occurrences ho)).mpr hno
  have hproper := Shape.start_lt_stop (Shape.mem_candidates_of_mem_occurrences ht)
  obtain rfl : t' = t := Shape.eq_of_overlap ht' ht (by omega) (by omega)
  omega

/-- **When an accepted statement agrees**: exactly if all occurrences that overrun are harmless.  Of
    the families with a lead, what overruns is a placeholder that ends right behind its lead. -/
theorem agrees_iff_of_validate (suggester : Suggester) (statement : Text)
    (hvalid : suggester.validate statement = .ok ()) :
    (Agrees statement
        ↔ ∀ family ∈ registry, ∀ o ∈ family.shape.occurrences statement, Overruns statement o →
            Harmless statement family o)
      ∧ ∀ family ∈ registry, family.tag ≠ .finish →
          ∀ o ∈ family.shape.occurrences statement,
            (Overruns statement o
              ↔ Shape.Closes statement (o.start + (family.tag.word ++ [char '_']).length + 1)) := by
  refine ⟨⟨?_, ?_⟩, ?_⟩
  · rintro ⟨hinside, hcovered⟩ family - o ho hover
    refine ⟨?_, fun t ht _ _ _ => hcovered t ht⟩
    rintro splice hsplice ⟨hstart, hstop⟩
    have hin := hinside splice hsplice
    rw [hstart, hstop, inToken_iff_not_overruns (Shape.mem_candidates_of_mem_occurrences ho)] at hin
    exact hin hover
  · intro hharmless
    have hinside := inToken_of_harmless hharmless
    refine ⟨hinside, fun t ht => ?_⟩
    obtain ⟨family, hfamily, haccepts⟩ := exists_family_of_validate hvalid ht
    obtain ⟨argument, hargument⟩ := Option.isSome_iff_exists.mp haccepts
    have hcandidate := Shape.mem_candidates_of_accepts
      (Shape.mem_candidates_of_mem_occurrences ht) hargument
    obtain ⟨o, ho, rfl | ⟨hbefore, hbehind⟩⟩ := Shape.exists_mem_occurrences hcandidate
    · exact covered_of_mem_occurrences hinside ht hfamily ho rfl rfl
        (Shape.argument?_eq_some_iff.mp hargument).1.symm
    · -- the family's scan has passed the token by, inside another occurrence
      have hover := overruns_of_hides ho ht hbefore hbehind
      exact (hharmless family hfamily o ho hover).2 t ht haccepts hbefore hbehind
  · intro family _ htag o ho
    obtain ⟨hshape, hclose, hline⟩ := Tag.shape_eq_leading htag
    have hcandidate : o ∈ (Shape.leading (family.tag.word ++ [char '_'])).candidates statement :=
      hshape ▸ Shape.mem_candidates_of_mem_occurrences ho
    exact overruns_leading_iff (by simp) hclose hline hcandidate

/-- The case of an occurrence that overruns, is passed over, and hides no token of its family. -/
theorem agrees_of_passed_click :
    Suggester.validate { threshold := 10 } "<visit_url <click_> <alert_x>".toText = .ok ()
      ∧ Agrees "<visit_url <click_> <alert_x>".toText := by
  have hvalid :
      Suggester.validate { threshold := 10 } "<visit_url <click_> <alert_x>".toText = .ok () := by
    decide
  refine ⟨hvalid, (agrees_iff_of_validate _ _ hvalid).1.mpr ?_⟩
  decide +kernel

/-- **An accepted statement that does not agree.**  The scan for clicks reads `<click_> <click_a>`
    as one placeholder and then passes it over, so that `<click_a>` stays without a report. -/
theorem not_agrees_of_hidden_click :
    Suggester.validate { threshold := 10 } "<visit_url <click_> <click_a>".toText = .ok ()
      ∧ resolve "<visit_url <click_> <click_a>".toText
        = ⟨"cy.visit('<click_') <click_a>".toText, []⟩
      ∧ ¬ Agrees "<visit_url <click_> <click_a>".toText := by
  refine ⟨by decide, by decide +kernel, ?_⟩
  decide +kernel

end ScenarioScript
