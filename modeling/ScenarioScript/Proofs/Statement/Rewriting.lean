import ScenarioScript.Proofs.Placeholder.Searching
import ScenarioScript.Proofs.Statement.Meaning

/-!
# What resolution does to any statement

A statement may be anything: placeholders inside others, brackets that close nothing, line feeds.
Still its resolution is a text in which some placeholders have been exchanged for code.

* `Gap`, `weave` — a statement cut into kept text and placeholders, and written again with something
  in place of each placeholder.
* `IsRewriting` — **a rewriting of a statement**: written with the placeholders themselves the
  pieces are the statement, written with the code of the first form that accepts they are the
  result.
* `exists_gaps` — ordered replacements cut a statement into such pieces.
* `Scan.exists_treats_of_unresolved` — every report has its moment in the scan.
* `resolveWith_rewrites` — the result, for every statement and every list of families.
-/

namespace ScenarioScript

/-! ## Forms -/

/-- The code for an argument comes from the first form that accepts it. -/
lemma Family.exists_form_of_render? {family : Family} {argument code : Text}
    (h : family.render? argument = some code) :
    ∃ earlier form later, family.forms = earlier ++ form :: later
      ∧ (∀ other ∈ earlier, other.accepts argument = false)
      ∧ form.accepts argument = true ∧ form.render? argument = some code := by
  obtain ⟨form, hform, hcode⟩ := Option.bind_eq_some_iff.mp h
  obtain ⟨haccepts, earlier, later, hforms, hearlier⟩ := List.find?_eq_some_iff_append.mp hform
  exact ⟨earlier, form, later, hforms, fun other hother => by simpa using hearlier other hother,
    haccepts, hcode⟩

lemma Family.accepts_eq_false_of_render? {family : Family} {argument : Text}
    (h : family.render? argument = none) {form : Form} (hform : form ∈ family.forms) :
    form.accepts argument = false := by
  have hnone := List.find?_eq_none.mp (Family.render?_eq_none_iff.mp h) form hform
  simpa using hnone

/-! ## Gaps -/

/-- **A placeholder that is exchanged**, with the text that is kept in front of it. -/
structure Gap where
  kept : Text
  family : Family
  place : Occurrence
  code : Text

namespace Gap

/-- What stood in the place of the code. -/
def token (gap : Gap) : Text :=
  gap.family.shape.token gap.place.argument

def splice (gap : Gap) : Splice :=
  ⟨gap.place.start, gap.place.stop, gap.code⟩

/-- **The gaps stand where they say**: each one behind the text that is kept in front of it, which
    begins at `position` or at the end of the gap before. -/
def Stand : (position : Nat) → List Gap → Prop
  | _, [] => True
  | position, gap :: gaps =>
    gap.place.start = position + gap.kept.length
      ∧ gap.place.stop = gap.place.start + gap.token.length ∧ Stand gap.place.stop gaps

end Gap

/-- **Kept text with something in the gaps**, and the text behind the last one. -/
def weave (fill : Gap → Text) (gaps : List Gap) (rest : Text) : Text :=
  gaps.flatMap (fun gap => gap.kept ++ fill gap) ++ rest

lemma weave_cons (fill : Gap → Text) (gap : Gap) (gaps : List Gap) (rest : Text) :
    weave fill (gap :: gaps) rest = gap.kept ++ fill gap ++ weave fill gaps rest := by
  rw [weave, List.flatMap_cons, List.append_assoc, weave]

/-- **A rewriting of a statement.** -/
structure IsRewriting (families : List Family) (statement text : Text) (gaps : List Gap)
    (rest : Text) : Prop where
  original : weave Gap.token gaps rest = statement
  result : weave Gap.code gaps rest = text
  stand : Gap.Stand 0 gaps
  nonempty : ∀ gap ∈ gaps, gap.place.start < gap.place.stop
  disjoint : gaps.Pairwise fun a b => a.place.stop ≤ b.place.start
  /-- Every gap is what a search of a family in use finds in the statement. -/
  found : ∀ gap ∈ gaps, gap.family ∈ families
    ∧ ∃ cursor : Nat, gap.family.shape.search statement cursor = some gap.place
  /-- The code is that of the first form that accepts the argument. -/
  coded : ∀ gap ∈ gaps, ∃ earlier form later, gap.family.forms = earlier ++ form :: later
    ∧ (∀ other ∈ earlier, other.accepts gap.place.argument = false)
    ∧ form.accepts gap.place.argument = true
    ∧ form.render? gap.place.argument = some gap.code

lemma Splice.Ordered.tail {splice : Splice} {splices : List Splice}
    (h : Splice.Ordered (splice :: splices)) : Splice.Ordered splices :=
  ⟨fun s hs => h.1 s (List.mem_cons_of_mem _ hs), h.2.of_cons⟩

/-- An occurrence cuts the text in which it stands. -/
lemma drop_eq_of_mem_occurrences {shape : Shape} {statement : Text} {o : Occurrence}
    {position : Nat} (h : o ∈ shape.occurrences statement) (hposition : position ≤ o.start) :
    statement.drop position
        = (statement.drop position).take (o.start - position) ++ shape.token o.argument
          ++ statement.drop o.stop
      ∧ o.stop = o.start + (shape.token o.argument).length ∧ o.stop ≤ statement.length := by
  obtain ⟨hread, hstop⟩ :=
    Shape.mem_candidates_iff.mp (Shape.mem_candidates_of_mem_occurrences h)
  obtain ⟨rest, hrest⟩ := Shape.token_prefix_of_argumentAt? hread
  have hdrop : statement.drop o.stop = rest := by
    rw [hstop, ← List.drop_drop, ← hrest, List.drop_left]
  have hlength : (shape.token o.argument).length ≤ statement.length - o.start := by
    rw [← List.length_drop, ← hrest, List.length_append]
    omega
  have htoken := Shape.two_le_length_token shape o.argument
  refine ⟨?_, hstop, by omega⟩
  have hback : (statement.drop position).drop (o.start - position)
      = shape.token o.argument ++ rest := by
    rw [List.drop_drop, Nat.add_sub_cancel' hposition, hrest]
  rw [hdrop, List.append_assoc, ← hback, List.take_append_drop]

/-- **Ordered replacements cut a statement into gaps.** -/
lemma exists_gaps {families : List Family} {statement : Text} :
    ∀ {splices : List Splice} {position : Nat}, Splice.Ordered splices →
      (∀ splice ∈ splices, position ≤ splice.start) →
      (∀ splice ∈ splices, ∃ v ∈ visits families statement, spliceOf? v = some splice) →
      ∃ gaps rest, gaps.map Gap.splice = splices
        ∧ weave Gap.token gaps rest = statement.drop position
        ∧ weave Gap.code gaps rest = Scan.assemble position (statement.drop position) splices
        ∧ Gap.Stand position gaps
        ∧ ∀ gap ∈ gaps, (gap.family, gap.place) ∈ visits families statement
          ∧ gap.family.render? gap.place.argument = some gap.code
  | [], position, _, _, _ =>
      ⟨[], statement.drop position, rfl, rfl, rfl, trivial, by simp⟩
  | splice :: splices, position, hordered, hbehind, hvisits => by
      obtain ⟨hstart, hbehind'⟩ := List.forall_mem_cons.mp hbehind
      obtain ⟨⟨⟨family, o⟩, hv, hsplice⟩, hvisits'⟩ := List.forall_mem_cons.mp hvisits
      obtain ⟨code, hcode, rfl⟩ := Option.map_eq_some_iff.mp hsplice
      replace hstart : position ≤ o.start := hstart
      obtain ⟨hcut, hstop, hlength⟩ :=
        drop_eq_of_mem_occurrences (mem_visits_iff.mp hv).2 hstart
      have hhead := (List.pairwise_cons.mp hordered.2).1
      obtain ⟨gaps, rest, hmap, htoken, hresult, hstand, hgaps⟩ :=
        exists_gaps hordered.tail hhead hvisits'
      refine ⟨⟨(statement.drop position).take (o.start - position), family, o, code⟩ :: gaps, rest,
        ?_, ?_, ?_, ?_, ?_⟩
      · rw [List.map_cons, hmap]
        rfl
      · rw [weave_cons, htoken]
        exact hcut.symm
      · have hdrop :
            (statement.drop position).drop (o.stop - position) = statement.drop o.stop := by
          rw [List.drop_drop]
          congr 1
          omega
        rw [weave_cons, hresult, Scan.assemble, hdrop]
      · refine ⟨?_, hstop, hstand⟩
        show o.start = position + ((statement.drop position).take (o.start - position)).length
        rw [List.length_take, List.length_drop]
        omega
      · intro gap hgap
        rcases List.mem_cons.mp hgap with rfl | hgap
        · exact ⟨hv, hcode⟩
        · exact hgaps gap hgap

/-! ## Moments of reports -/

namespace Scan

/-- **A report that further visits have added** was added when one of them was treated. -/
lemma exists_treats_of_unresolved_after {statement : Text} {earlier later : List Unresolved}
    {entry : Unresolved} :
    ∀ {vs : List (Family × Occurrence)} {scan : Scan},
      scan.unresolved.length ≤ earlier.length →
      (after statement scan vs).unresolved = earlier ++ entry :: later →
      ∃ before v, Treats statement scan vs before v ∧ spliceOf? v = none
        ∧ (after statement scan before).unresolved = earlier ∧ entry = reportOf statement v
  | [], scan, hlength, h => by
      have htotal := congrArg List.length h
      rw [after, List.length_append, List.length_cons] at htotal
      omega
  | v :: vs, scan, hlength, h => by
      rw [after] at h
      -- unless the first visit has added the report, a later one has
      have hlater : (visit statement v.1 scan v.2).unresolved.length ≤ earlier.length →
          ∃ before w, Treats statement scan (v :: vs) before w ∧ spliceOf? w = none
            ∧ (after statement scan before).unresolved = earlier
            ∧ entry = reportOf statement w := by
        intro hle
        obtain ⟨before, w, htreats, hrest⟩ := exists_treats_of_unresolved_after hle h
        exact ⟨v :: before, w, htreats.cons, hrest⟩
      rcases visit_cases statement v.1 scan v.2
        with ⟨-, heq⟩ | ⟨hapart, ⟨hnone, heq⟩ | ⟨splice, -, heq⟩⟩
      · refine hlater ?_
        rw [heq]
        exact hlength
      · rcases Nat.lt_or_eq_of_le hlength with hlt | hlast
        · refine hlater ?_
          rw [heq, List.length_append]
          exact hlt
        · have hprefix : (visit statement v.1 scan v.2).unresolved <+: earlier ++ entry :: later :=
            h ▸ unresolved_prefix_after vs _
          obtain ⟨rest, hrest⟩ := hprefix
          rw [heq, List.append_assoc] at hrest
          obtain ⟨hearlier, htail⟩ := List.append_inj hrest hlast
          exact ⟨[], v, ⟨by simp, hapart⟩, hnone, hearlier, (List.cons.inj htail).1.symm⟩
      · refine hlater ?_
        rw [heq]
        exact hlength

/-- **Every report has its moment**: the scan treats an occurrence that no form accepts, and the
    reports made by then are those that stand in front of it. -/
theorem exists_treats_of_unresolved {families : List Family} {statement : Text}
    {earlier later : List Unresolved} {entry : Unresolved}
    (h : (run families statement).unresolved = earlier ++ entry :: later) :
    ∃ before v, Treats statement {} (visits families statement) before v ∧ spliceOf? v = none
      ∧ (after statement {} before).unresolved = earlier ∧ entry = reportOf statement v := by
  rw [run_eq_after] at h
  exact exists_treats_of_unresolved_after (Nat.zero_le _) h

end Scan

/-! ## The result -/

/-- The token of an occurrence is what stands in the statement. -/
lemma token_eq_of_mem_occurrences {shape : Shape} {statement : Text} {o : Occurrence}
    (h : o ∈ shape.occurrences statement) :
    shape.token o.argument = (statement.take o.stop).drop o.start := by
  obtain ⟨hcut, hstop, -⟩ := drop_eq_of_mem_occurrences h (le_refl o.start)
  rw [Nat.sub_self, List.take_zero, List.nil_append] at hcut
  rw [List.drop_take, hcut, hstop, Nat.add_sub_cancel_left, List.take_left]

/-- **A report quotes the statement.** -/
lemma reportOf_of_mem_visits {families : List Family} {statement : Text}
    {v : Family × Occurrence} (h : v ∈ visits families statement) :
    reportOf statement v
      = ⟨v.1.tag, (statement.take v.2.stop).drop v.2.start, statement⟩ := by
  rw [reportOf, token_eq_of_mem_occurrences (mem_visits_iff.mp h).2]

/-- **The replacements of a scan are the gaps of a rewriting.** -/
lemma exists_isRewriting (families : List Family) (statement : Text) :
    ∃ gaps rest, gaps.map Gap.splice = (Scan.run families statement).splices
      ∧ IsRewriting families statement (resolveWith families statement).text gaps rest := by
  have hordered := Scan.ordered_run families statement
  obtain ⟨gaps, rest, hmap, htoken, hresult, hstand, hgaps⟩ :=
    exists_gaps hordered (fun splice _ => Nat.zero_le _) fun splice => Scan.mem_splices_run
  refine ⟨gaps, rest, hmap, htoken, hresult, hstand, fun gap hgap => ?_, ?_, fun gap hgap => ?_,
    fun gap hgap => ?_⟩
  · exact hordered.1 gap.splice (hmap ▸ List.mem_map_of_mem hgap)
  · have hpairs := hordered.2
    rw [← hmap, List.pairwise_map] at hpairs
    exact hpairs
  · obtain ⟨hfamily, hplace⟩ := mem_visits_iff.mp (hgaps gap hgap).1
    exact ⟨hfamily, Shape.exists_search_of_mem_occurrences hplace⟩
  · exact Family.exists_form_of_render? (hgaps gap hgap).2

/-- **What resolution does to any statement**, with any list of families.

    * The searches of each family come to an end.
    * The text is a rewriting of the statement, in which no occurrence is forgotten: each one shares
      a character with a gap, or is reported.
    * Every report is about an occurrence of a family in use, at its moment in the scan: no form
      accepts its argument, and it touches nothing that has been replaced by then. -/
theorem resolveWith_rewrites (families : List Family) (statement : Text) :
    (∀ family ∈ families, ∀ met : List Occurrence,
        family.shape.Meets statement 0 met ↔ met = family.shape.occurrences statement)
      ∧ (∃ gaps rest,
          IsRewriting families statement (resolveWith families statement).text gaps rest
            ∧ ∀ family ∈ families, ∀ o ∈ family.shape.occurrences statement,
                (∃ gap ∈ gaps, o.overlaps gap.place.start gap.place.stop = true)
                  ∨ reportOf statement (family, o) ∈ (resolveWith families statement).unresolved)
      ∧ ∀ earlier entry later,
          (resolveWith families statement).unresolved = earlier ++ entry :: later →
          ∃ before family o,
            Scan.Treats statement {} (visits families statement) before (family, o)
            ∧ (Scan.after statement {} before).unresolved = earlier
            ∧ family ∈ families
            ∧ (∃ cursor : Nat, family.shape.search statement cursor = some o)
            ∧ (∀ form ∈ family.forms, form.accepts o.argument = false)
            ∧ entry = ⟨family.tag, (statement.take o.stop).drop o.start, statement⟩ := by
  obtain ⟨gaps, rest, hgaps, hrewriting⟩ := exists_isRewriting families statement
  refine ⟨fun family _ met => Shape.meets_iff,
    ⟨gaps, rest, hrewriting, fun family hfamily o ho => ?_⟩, fun earlier entry later h => ?_⟩
  · refine (Scan.settled_run (mem_visits_iff.mpr ⟨hfamily, ho⟩)).imp_left ?_
    rintro ⟨splice, hsplice, hoverlap⟩
    obtain ⟨gap, hgap, rfl⟩ := List.mem_map.mp (hgaps ▸ hsplice)
    exact ⟨gap, hgap, hoverlap⟩
  · obtain ⟨before, ⟨family, o⟩, htreats, hnone, hearlier, rfl⟩ :=
      Scan.exists_treats_of_unresolved h
    obtain ⟨hfamily, ho⟩ := mem_visits_iff.mp htreats.mem
    refine ⟨before, family, o, htreats, hearlier, hfamily,
      Shape.exists_search_of_mem_occurrences ho, fun form hform => ?_,
      reportOf_of_mem_visits htreats.mem⟩
    exact Family.accepts_eq_false_of_render? (Option.map_eq_none_iff.mp hnone) hform

/-- The case of a stray bracket, a placeholder inside another, a line feed and a family that is used
    twice. -/
theorem resolveWith_rewrites_nested :
    let families := [Tag.visit, .click, .visit].map Family.ofTag
    let statement := "<visit_x>> <visit_<click_a> b>\n<click_c>".toText
    let first : Unresolved := ⟨.visit, "<visit_x>>".toText, statement⟩
    let second : Unresolved := ⟨.visit, "<visit_<click_a> b>".toText, statement⟩
    let text := "<visit_x>> <visit_cy.get('a> b').click()\ncy.get('c').click()".toText
    (resolveWith families statement).unresolved = [first] ++ second :: [first]
      ∧ (∃ gaps rest, IsRewriting families statement text gaps rest)
      ∧ ∃ before family o,
          Scan.Treats statement {} (visits families statement) before (family, o)
            ∧ (Scan.after statement {} before).unresolved = [first]
            ∧ (∀ form ∈ family.forms, form.accepts o.argument = false)
            ∧ second = ⟨family.tag, (statement.take o.stop).drop o.start, statement⟩ := by
  intro families statement first second text
  have hunresolved :
      (resolveWith families statement).unresolved = [first] ++ second :: [first] := by
    decide +kernel
  have htext : (resolveWith families statement).text = text := by decide +kernel
  obtain ⟨-, ⟨gaps, rest, hrewriting, -⟩, hreports⟩ := resolveWith_rewrites families statement
  obtain ⟨before, family, o, htreats, hearlier, -, -, hrefused, hentry⟩ :=
    hreports [first] second [first] hunresolved
  exact ⟨hunresolved, ⟨gaps, rest, htext ▸ hrewriting⟩, before, family, o, htreats, hearlier,
    hrefused, hentry⟩

end ScenarioScript
