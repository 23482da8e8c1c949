import Mathlib.Data.List.Nodup
import ScenarioScript.Proofs.Statement.Faults
import ScenarioScript.Proofs.Statement.Scan
import ScenarioScript.Proofs.Statement.Sentence

/-!
# What a sentence resolves to

For sentences there is no need to speak of scans, cursors and overlaps.  Every placeholder is
treated on its own: it is replaced by the code of the first form of its family that accepts its
argument, and otherwise it stays.

* `Placeholder.code?` — the code of one placeholder, `Sentence.reports` what is reported.
* `Sentence.visits_apart` — **the scans of the families do not meet**: two of their occurrences
  never share a character, so no visit is passed over.
* `Sentence.splices_run`, `Sentence.unresolved_run` — what the scan leaves behind.
* `Sentence.assemble_text` — writing the replacements into the statement is writing the sentence.
* `Sentence.resolved_token_by_token` — the result, for every list of families.
-/

namespace ScenarioScript

/-! ## Families of the registry -/

lemma eq_ofTag_of_mem_registry {family : Family} (h : family ∈ registry) :
    family = Family.ofTag family.tag := by
  obtain ⟨tag, -, rfl⟩ := List.mem_map.mp h
  rw [Family.tag_ofTag]

lemma ofTag_mem_registry (tag : Tag) : Family.ofTag tag ∈ registry :=
  List.mem_map.mpr ⟨tag, Tag.mem_all tag, rfl⟩

/-- A family has no code for an argument exactly when no form accepts it. -/
lemma Family.render?_eq_none_iff {family : Family} {argument : Text} :
    family.render? argument = none ↔ family.form? argument = none := by
  cases hform : family.form? argument with
  | none => simp [Family.render?, hform]
  | some form =>
      have haccepts : form.accepts argument = true :=
        (List.find?_eq_some_iff_append.mp hform).1
      obtain ⟨values, hvalues⟩ := Option.isSome_iff_exists.mp haccepts
      simp [Family.render?, hform, Form.render?, hvalues]

/-! ## One placeholder -/

/-- **The code of a placeholder**: that of the first form of its family that accepts its argument,
    if the family is one of those in use. -/
def Placeholder.code? (families : List Family) (p : Placeholder) : Option Text :=
  if p.tag ∈ families.map Family.tag then (Family.ofTag p.tag).render? p.argument else none

/-- What a placeholder becomes: its code, or itself. -/
def Placeholder.resolved (families : List Family) (p : Placeholder) : Text :=
  (p.code? families).getD p.text

namespace Sentence

/-- **The placeholders that stay although their family is in use**: family by family, and from left
    to right inside a family. -/
def reports (families : List Family) (sentence : Sentence) : List Unresolved :=
  families.flatMap fun family =>
    (sentence.placeholders.filter fun p =>
        p.tag = family.tag && (family.form? p.argument).isNone).map fun p =>
      ⟨family.tag, p.text, sentence.text⟩

/-! ## The scan of a sentence -/

/-- A replacement in the place of a placeholder. -/
def spliceAt (entry : Nat × Placeholder) (code : Text) : Splice :=
  ⟨entry.1, entry.1 + entry.2.text.length, code⟩

lemma mem_occurrences_iff {family : Family} {sentence : Sentence} {o : Occurrence} :
    o ∈ family.shape.occurrences sentence.text
      ↔ ∃ entry ∈ sentence.layout 0,
          family.tag = entry.2.tag ∧ o = occurrenceAt entry entry.2.argument := by
  rw [Family.shape, occurrences_tag, List.mem_filterMap]
  refine exists_congr fun entry => and_congr_right fun _ => ?_
  rw [occurrenceOf?]
  constructor
  · intro h
    split at h
    · rename_i htag
      exact ⟨htag, by simpa using h.symm⟩
    · exact absurd h (by simp)
  · rintro ⟨htag, rfl⟩
    rw [if_pos htag]

/-- Two placeholders of a sentence are the same or apart. -/
lemma layout_apart {sentence : Sentence} {a b : Nat × Placeholder} (ha : a ∈ sentence.layout 0)
    (hb : b ∈ sentence.layout 0) (hne : a ≠ b) :
    a.1 + a.2.text.length ≤ b.1 ∨ b.1 + b.2.text.length ≤ a.1 := by
  have hpairs := pairwise_layout 0 sentence
  refine List.Pairwise.forall_of_forall_of_flip
    (R := fun x y => x ≠ y → x.1 + x.2.text.length ≤ y.1 ∨ y.1 + y.2.text.length ≤ x.1)
    ?_ ?_ ?_ ha hb hne
  · exact fun _ _ h => absurd rfl h
  · exact hpairs.imp fun h _ => Or.inl h
  · exact hpairs.imp fun h _ => Or.inr h

/-- **The scans of the families do not meet.** -/
lemma visits_apart {families : List Family} (hknown : families ⊆ registry)
    (hdistinct : families.Nodup) (sentence : Sentence) :
    (visits families sentence.text).Pairwise
      fun v w => v.2.stop ≤ w.2.start ∨ w.2.stop ≤ v.2.start := by
  refine List.pairwise_flatMap.mpr ⟨fun family _ => ?_, ?_⟩
  · rw [List.pairwise_map]
    exact (Shape.pairwise_occurrences _ _).imp Or.inl
  · refine hdistinct.imp_of_mem fun {family family'} hmem hmem' hne v hv w hw => ?_
    obtain ⟨o, ho, rfl⟩ := List.mem_map.mp hv
    obtain ⟨o', ho', rfl⟩ := List.mem_map.mp hw
    obtain ⟨entry, hentry, htag, rfl⟩ := mem_occurrences_iff.mp ho
    obtain ⟨entry', hentry', htag', rfl⟩ := mem_occurrences_iff.mp ho'
    refine layout_apart hentry hentry' fun heq => hne ?_
    rw [eq_ofTag_of_mem_registry (hknown hmem), eq_ofTag_of_mem_registry (hknown hmem'), htag,
      htag', heq]

/-- The replacements that the placeholders of a sentence ask for are in order. -/
lemma ordered_layout (sentence : Sentence) (code? : Placeholder → Option Text) :
    Splice.Ordered ((sentence.layout 0).filterMap fun entry =>
      (code? entry.2).map (spliceAt entry)) := by
  refine ⟨fun splice hsplice => ?_, ?_⟩
  · obtain ⟨entry, -, h⟩ := List.mem_filterMap.mp hsplice
    obtain ⟨code, -, rfl⟩ := Option.map_eq_some_iff.mp h
    show entry.1 < entry.1 + entry.2.text.length
    rw [Placeholder.text_eq, List.length_cons]
    omega
  · rw [List.pairwise_filterMap]
    refine (pairwise_layout 0 sentence).imp fun {a b} hle s hs s' hs' => ?_
    obtain ⟨code, -, rfl⟩ := Option.map_eq_some_iff.mp hs
    obtain ⟨code', -, rfl⟩ := Option.map_eq_some_iff.mp hs'
    exact hle

lemma mem_filterMap_visits_iff {families : List Family} (hknown : families ⊆ registry)
    {sentence : Sentence} {splice : Splice} :
    splice ∈ (visits families sentence.text).filterMap spliceOf?
      ↔ splice ∈ (sentence.layout 0).filterMap fun entry =>
          (entry.2.code? families).map (spliceAt entry) := by
  simp only [List.mem_filterMap]
  constructor
  · rintro ⟨⟨family, o⟩, hv, hsplice⟩
    obtain ⟨hfamily, ho⟩ := mem_visits_iff.mp hv
    obtain ⟨entry, hentry, htag, rfl⟩ := mem_occurrences_iff.mp ho
    have hcode : entry.2.code? families = family.render? entry.2.argument := by
      rw [Placeholder.code?, if_pos (htag ▸ List.mem_map_of_mem hfamily), ← htag,
        ← eq_ofTag_of_mem_registry (hknown hfamily)]
    exact ⟨entry, hentry, by rw [hcode]; exact hsplice⟩
  · rintro ⟨entry, hentry, hsplice⟩
    obtain ⟨code, hcode, rfl⟩ := Option.map_eq_some_iff.mp hsplice
    rw [Placeholder.code?] at hcode
    split at hcode
    · rename_i hlisted
      obtain ⟨family, hfamily, htag⟩ := List.mem_map.mp hlisted
      rw [← htag, ← eq_ofTag_of_mem_registry (hknown hfamily)] at hcode
      refine ⟨(family, occurrenceAt entry entry.2.argument), ?_, ?_⟩
      · exact mem_visits_iff.mpr ⟨hfamily, mem_occurrences_iff.mpr ⟨entry, hentry, htag, rfl⟩⟩
      · exact Option.map_eq_some_iff.mpr ⟨code, hcode, rfl⟩
    · exact absurd hcode (by simp)

/-- **The replacements of a sentence**: one for each placeholder that has code. -/
lemma splices_run {families : List Family} (hknown : families ⊆ registry)
    (hdistinct : families.Nodup) (sentence : Sentence) :
    (Scan.run families sentence.text).splices
      = (sentence.layout 0).filterMap fun entry =>
          (entry.2.code? families).map (spliceAt entry) := by
  refine (Scan.ordered_run families sentence.text).ext (sentence.ordered_layout _) fun splice => ?_
  obtain ⟨hperm, -⟩ := Scan.run_of_apart (visits_apart hknown hdistinct sentence)
  rw [hperm.mem_iff]
  exact mem_filterMap_visits_iff hknown

/-- The reports about one family: its visits that no form accepts are the placeholders with its
    tag that no form accepts. -/
lemma map_reportOf_visits (family : Family) (statement : Text) : ∀ l : List (Nat × Placeholder),
    (((l.filterMap (occurrenceOf? family.tag)).map fun o => (family, o)).filter
        fun v => (spliceOf? v).isNone).map (reportOf statement)
      = ((l.map (·.2)).filter fun p =>
            p.tag = family.tag && (family.form? p.argument).isNone).map fun p =>
          ⟨family.tag, p.text, statement⟩
  | [] => rfl
  | entry :: l => by
      have ih := map_reportOf_visits family statement l
      have hcode : (spliceOf? (family, occurrenceAt entry entry.2.argument)).isNone
          = (family.form? entry.2.argument).isNone := by
        rw [Bool.eq_iff_iff, Option.isNone_iff_eq_none, Option.isNone_iff_eq_none, spliceOf?,
          Option.map_eq_none_iff]
        exact Family.render?_eq_none_iff
      by_cases htag : family.tag = entry.2.tag
      · have hfound : occurrenceOf? family.tag entry
            = some (occurrenceAt entry entry.2.argument) := if_pos htag
        rw [List.filterMap_cons_some hfound, List.map_cons, List.map_cons]
        cases hform : (family.form? entry.2.argument).isNone with
        | true =>
            have hreport : reportOf statement (family, occurrenceAt entry entry.2.argument)
                = ⟨family.tag, entry.2.text, statement⟩ := by
              rw [reportOf, Placeholder.text, ← htag]
              rfl
            rw [List.filter_cons_of_pos (by simpa [hcode] using hform), List.map_cons, ih, hreport,
              List.filter_cons_of_pos (by simp [htag, hform]), List.map_cons]
        | false =>
            rw [List.filter_cons_of_neg (by simp [hcode, hform]), ih,
              List.filter_cons_of_neg (by simp [hform])]
      · have hfound : occurrenceOf? family.tag entry = none := if_neg htag
        rw [List.filterMap_cons_none hfound, ih, List.map_cons,
          List.filter_cons_of_neg (by simp [Ne.symm htag])]

/-- **The reports of a sentence.** -/
lemma unresolved_run {families : List Family} (hknown : families ⊆ registry)
    (hdistinct : families.Nodup) (sentence : Sentence) :
    (Scan.run families sentence.text).unresolved = sentence.reports families := by
  obtain ⟨-, hreports⟩ := Scan.run_of_apart (visits_apart hknown hdistinct sentence)
  rw [hreports, visits, List.filter_flatMap, List.map_flatMap, reports]
  refine congrArg (List.flatMap · families) (funext fun family => ?_)
  rw [Family.shape, occurrences_tag, map_reportOf_visits, ← placeholders_eq_map_layout]

/-! ## Writing the replacements -/

/-- What stands in front of the first replacement is kept. -/
lemma assemble_append {splices : List Splice} {position : Nat} (before rest : Text)
    (hproper : ∀ splice ∈ splices, splice.start ≤ splice.stop)
    (hbehind : ∀ splice ∈ splices, position + before.length ≤ splice.start) :
    Scan.assemble position (before ++ rest) splices
      = before ++ Scan.assemble (position + before.length) rest splices := by
  cases splices with
  | nil => rfl
  | cons splice splices =>
      have hstart := hbehind splice (by simp)
      have hstop := hproper splice (by simp)
      have htake : splice.start - position
          = before.length + (splice.start - (position + before.length)) := by omega
      have hdrop : splice.stop - position
          = before.length + (splice.stop - (position + before.length)) := by omega
      rw [Scan.assemble, Scan.assemble, htake, hdrop, List.take_length_add_append,
        List.drop_length_add_append]
      simp only [List.append_assoc]

lemma mem_splices_layout {code? : Placeholder → Option Text} {offset : Nat} {sentence : Sentence}
    {splice : Splice}
    (h : splice ∈ (sentence.layout offset).filterMap fun entry =>
      (code? entry.2).map (spliceAt entry)) :
    splice.start ≤ splice.stop ∧ offset ≤ splice.start := by
  obtain ⟨entry, hentry, hsplice⟩ := List.mem_filterMap.mp h
  obtain ⟨code, -, rfl⟩ := Option.map_eq_some_iff.mp hsplice
  exact ⟨Nat.le_add_right _ _, le_of_mem_layout hentry⟩

/-- **Writing the replacements is writing the sentence.** -/
lemma assemble_text (code? : Placeholder → Option Text) : ∀ (offset : Nat) (sentence : Sentence),
    Scan.assemble offset sentence.text
        ((sentence.layout offset).filterMap fun entry => (code? entry.2).map (spliceAt entry))
      = sentence.write fun p => (code? p).getD p.text
  | _, last _ _ => rfl
  | offset, step words prose p rest => by
      have ih := assemble_text code? (offset + words.length + p.text.length) rest
      rw [layout, write]
      show Scan.assemble offset (words ++ p.text ++ rest.text) _ = _
      cases hcode : code? p with
      | none =>
          -- prose and placeholder are both kept
          rw [List.filterMap_cons_none (by simp [hcode]), assemble_append, Option.getD_none,
            List.length_append, ← Nat.add_assoc, ih]
          · exact fun splice hsplice => (mem_splices_layout hsplice).1
          · intro splice hsplice
            have hle := (mem_splices_layout hsplice).2
            rw [List.length_append]
            omega
      | some code =>
          -- the prose is kept, then the first replacement is the placeholder's own
          rw [List.filterMap_cons_some (b := spliceAt (offset + words.length, p) code)
            (by simp [hcode]), List.append_assoc, assemble_append, Scan.assemble]
          · simp only [spliceAt, Nat.sub_self, List.take_zero, List.nil_append,
              Nat.add_sub_cancel_left, List.drop_left, Option.getD_some, ih, List.append_assoc]
          · intro splice hsplice
            rcases List.mem_cons.mp hsplice with rfl | hsplice
            · exact Nat.le_add_right _ _
            · exact (mem_splices_layout hsplice).1
          · intro splice hsplice
            rcases List.mem_cons.mp hsplice with rfl | hsplice
            · exact le_refl _
            · have hle := (mem_splices_layout hsplice).2
              omega

/-! ## Tokens -/

lemma tokens_text (sentence : Sentence) :
    tokens sentence.text = sentence.placeholders.map Placeholder.text := by
  rw [tokens, occurrences_any, placeholders_eq_map_layout 0, List.map_map, List.map_map]
  refine List.map_congr_left fun entry _ => ?_
  exact entry.2.token_inner

/-- Every placeholder is accepted by its own family. -/
lemma isInvalidToken_text (p : Placeholder) : isInvalidToken p.text = false := by
  have haccepts : (Family.ofTag p.tag).shape.accepts p.text = true := by
    rw [Family.shape, Family.tag_ofTag, Shape.accepts, Option.isSome_iff_exists]
    exact ⟨p.argument, Shape.argument?_eq_some_iff.mpr ⟨rfl, p.admitted⟩⟩
  exact isInvalidToken_eq_false_iff.mpr ⟨Family.ofTag p.tag, ofTag_mem_registry p.tag, haccepts⟩

lemma validate_text (suggester : Suggester) (sentence : Sentence) :
    suggester.validate sentence.text = .ok () := by
  rw [suggester.validate_eq_ok_iff, tokens_text]
  intro token htoken
  obtain ⟨p, -, rfl⟩ := List.mem_map.mp htoken
  exact isInvalidToken_text p

/-! ## The result -/

lemma resolved_congr {families families' : List Family} (h : families.Perm families')
    (p : Placeholder) : p.resolved families = p.resolved families' := by
  rw [Placeholder.resolved, Placeholder.resolved, Placeholder.code?, Placeholder.code?]
  simp only [(h.map Family.tag).mem_iff]

/-- **A sentence is resolved token by token.**  The scan for tokens finds its placeholders where
    they stand, and all are accepted.  With any families of the registry, each named once, in any
    order, the text is the sentence with every placeholder written as its code, if it has one, and
    the reports are the placeholders of these families that have none.  So the text does not
    depend on the order of the families. -/
theorem resolved_token_by_token (suggester : Suggester) (sentence : Sentence)
    (families : List Family) (hknown : families ⊆ registry) (hdistinct : families.Nodup) :
    (Shape.any.occurrences sentence.text
        = (sentence.layout 0).map fun entry => occurrenceAt entry entry.2.inner)
      ∧ tokens sentence.text = sentence.placeholders.map Placeholder.text
      ∧ suggester.validate sentence.text = .ok ()
      ∧ (resolveWith families sentence.text).text
        = sentence.write (Placeholder.resolved families)
      ∧ (resolveWith families sentence.text).unresolved = sentence.reports families
      ∧ ∀ families', families'.Perm families →
          (resolveWith families' sentence.text).text
            = (resolveWith families sentence.text).text := by
  have htext : ∀ {l : List Family}, l ⊆ registry → l.Nodup →
      (resolveWith l sentence.text).text = sentence.write (Placeholder.resolved l) := by
    intro l hl hl'
    show Scan.assemble 0 sentence.text (Scan.run l sentence.text).splices = _
    rw [splices_run hl hl', assemble_text]
    rfl
  refine ⟨sentence.occurrences_any, sentence.tokens_text, sentence.validate_text suggester,
    htext hknown hdistinct, unresolved_run hknown hdistinct sentence, ?_⟩
  intro families' hperm
  rw [htext hknown hdistinct, htext (fun f hf => hknown (hperm.subset hf))
    (hperm.nodup_iff.mpr hdistinct), funext (resolved_congr hperm)]

/-- The case of a `>` inside an argument, a family that is not in use, an argument that no form
    accepts, and families out of their usual order. -/
theorem resolved_token_by_token_menu :
    ([Tag.visit, .click, .finish].map Family.ofTag ⊆ registry
        ∧ ([Tag.visit, .click, .finish].map Family.ofTag).Nodup)
      ∧ (resolveWith ([Tag.visit, .click, .finish].map Family.ofTag)
          "a <click_ul > li>\n<visit_home><alert_x><end>".toText).text
        = "a cy.get('ul > li').click()\n<visit_home><alert_x>".toText
      ∧ (resolveWith ([Tag.visit, .click, .finish].map Family.ofTag)
          "a <click_ul > li>\n<visit_home><alert_x><end>".toText).unresolved
        = [⟨.visit, "<visit_home>".toText,
            "a <click_ul > li>\n<visit_home><alert_x><end>".toText⟩] := by
  have hknown : [Tag.visit, .click, .finish].map Family.ofTag ⊆ registry := by
    intro family hfamily
    obtain ⟨tag, -, rfl⟩ := List.mem_map.mp hfamily
    exact ofTag_mem_registry tag
  have hdistinct : ([Tag.visit, .click, .finish].map Family.ofTag).Nodup :=
    List.Nodup.map (Function.LeftInverse.injective Family.tag_ofTag) (by decide)
  have h := resolved_token_by_token { threshold := 10 }
    (.step "a ".toText (by decide) ⟨.click, "ul > li".toText, by decide, by decide⟩
      (.step "\n".toText (by decide) ⟨.visit, "home".toText, by decide, by decide⟩
        (.step [] (by decide) ⟨.alert, "x".toText, by decide, by decide⟩
          (.step [] (by decide) ⟨.finish, "end".toText, by decide, by decide⟩
            (.last [] (by decide)))))) _ hknown hdistinct
  obtain ⟨-, -, -, htext, hunresolved, -⟩ := h
  exact ⟨⟨hknown, hdistinct⟩, htext.trans (by decide), hunresolved.trans (by decide)⟩

end Sentence

end ScenarioScript
