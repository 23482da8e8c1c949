import Mathlib.Data.List.DropRight
import ScenarioScript.Proofs.Forest.Traversal
import ScenarioScript.Proofs.Placeholder.Searching
import ScenarioScript.Proofs.Statement.Agreement
import ScenarioScript.Proofs.Statement.Sentence

/-!
# Guards and the blocks that they open

Grouping takes a statement for a guard because of how it begins, `<if_`.  Resolution looks for a
whole placeholder of the guards' family.  For an accepted statement the two differ in one way only:
the beginning may never be closed, or only behind a line feed.  And a guard that is found may still
be passed over, because placeholders of other families are replaced first (`guards_escape`).

* `IsClosed` — a closing bracket follows on the line on which the statement begins.
* `found_iff_isClosed` — **the guard is found where the statement begins** exactly if it is closed.
* `rewritten_or_reported` — a guard that is found is rewritten or reported, unless a placeholder of
  a family that comes before the guards is replaced inside it; then it is passed over.
* `Forest.opening_of_isBlock` — only guards have blocks.
* `guards_found_iff` — all of it, for statements and forests.
-/

namespace ScenarioScript

/-! ## Where a statement begins -/

/-- The number of blanks in front of the first other character. -/
def Text.leadingBlanks (text : Text) : Nat :=
  (text.takeWhile isBlank).length

lemma Text.drop_leadingBlanks (text : Text) :
    text.drop text.leadingBlanks = text.dropWhile isBlank := by
  have hdrop : (text.takeWhile isBlank ++ text.dropWhile isBlank).drop text.leadingBlanks
      = text.dropWhile isBlank := List.drop_left
  rwa [List.takeWhile_append_dropWhile] at hdrop

lemma Text.strip_prefix (text : Text) : strip text <+: text.drop text.leadingBlanks := by
  rw [drop_leadingBlanks]
  exact List.rdropWhile_prefix isBlank _

/-- A statement that opens a block begins with what every guard begins with. -/
lemma guardLead_prefix_of_opening {statement : Text} (h : Mark.of statement = .opening) :
    guardLead <+: statement.drop statement.leadingBlanks := by
  rw [Mark.of] at h
  split at h
  · exact absurd h (by simp)
  · split at h
    · rename_i hstarts
      obtain ⟨rest, hrest⟩ := Option.isSome_iff_exists.mp hstarts
      have hlead : guardLead <+: Text.strip statement :=
        ⟨rest, (Text.after?_eq_some_iff.mp hrest).symm⟩
      exact hlead.trans (Text.strip_prefix statement)
    · exact absurd h (by simp)

/-- No placeholder starts among the blanks. -/
lemma leadingBlanks_le_start {shape : Shape} {statement : Text} {o : Occurrence}
    (h : o ∈ shape.candidates statement) : statement.leadingBlanks ≤ o.start := by
  obtain ⟨rest, hmark⟩ := shape.exists_mark_eq_cons
  have hprefix := mark_prefix_of_mem_candidates h
  rw [hmark] at hprefix
  have hopen : statement[o.start]? = some (char '<') :=
    getElem?_of_prefix_drop hprefix (i := 0) (by simp)
  by_contra hlt
  have hblanks : statement.takeWhile Text.isBlank <+: statement.drop 0 :=
    List.takeWhile_prefix Text.isBlank
  have hget := getElem?_of_prefix_drop hblanks (Nat.lt_of_not_le hlt)
  rw [Nat.zero_add, hopen] at hget
  have hblank : Text.isBlank (char '<') = true :=
    List.mem_takeWhile_imp (List.mem_of_getElem? hget.symm)
  exact absurd hblank (by decide)

/-- A candidate at the beginning of the statement is what a search finds first. -/
lemma search_eq_some {shape : Shape} {statement : Text} {o : Occurrence}
    (h : o ∈ shape.candidates statement) (hstart : o.start = statement.leadingBlanks) :
    shape.search statement 0 = some o := by
  refine Shape.search_eq_some_iff.mpr ⟨h, by simp, fun p hp _ => ?_⟩
  rw [hstart]
  exact leadingBlanks_le_start hp

lemma mem_candidates_of_search {shape : Shape} {statement : Text} {o : Occurrence} {position : Int}
    (h : shape.search statement position = some o) : o ∈ shape.candidates statement :=
  List.mem_of_find?_eq_some h

/-- A scan meets the candidate at the beginning of the statement. -/
lemma mem_occurrences_of_start {shape : Shape} {statement : Text} {o : Occurrence}
    (h : o ∈ shape.candidates statement) (hstart : o.start = statement.leadingBlanks) :
    o ∈ shape.occurrences statement := by
  obtain ⟨p, hp, rfl | ⟨hlt, -⟩⟩ := Shape.exists_mem_occurrences h
  · exact hp
  · have hle := leadingBlanks_le_start (Shape.mem_candidates_of_mem_occurrences hp)
    omega

/-! ## Finding the guard -/

/-- **A statement is closed** if a closing bracket follows on the line on which it begins. -/
def IsClosed (statement : Text) : Prop :=
  ∃ close, statement.leadingBlanks ≤ close ∧ Shape.Closes statement close
    ∧ ∀ k, statement.leadingBlanks ≤ k → k < close → statement[k]? ≠ some (char '\n')

/-- **The guard of a statement**: what a search for guards finds where the statement begins. -/
def IsGuard (statement : Text) (o : Occurrence) : Prop :=
  Tag.guard.shape.search statement 0 = some o ∧ o.start = statement.leadingBlanks

/-- The characters of the beginning of a guard. -/
lemma mem_guardLead {statement : Text}
    (hlead : guardLead <+: statement.drop statement.leadingBlanks)
    {k : Nat} (hk : statement.leadingBlanks ≤ k) (hlt : k < statement.leadingBlanks + 4) :
    ∃ c ∈ guardLead, statement[k]? = some c := by
  obtain ⟨i, rfl⟩ := Nat.exists_eq_add_of_le hk
  have hi : i < guardLead.length := Nat.lt_of_add_lt_add_left hlt
  refine ⟨guardLead[i], List.getElem_mem hi, ?_⟩
  rw [getElem?_of_prefix_drop hlead hi, List.getElem?_eq_getElem hi]

/-- A token at the beginning of an accepted statement that opens a block is a guard. -/
lemma exists_guard_of_token {suggester : Suggester} {statement : Text} {t : Occurrence}
    (hvalid : suggester.validate statement = .ok ()) (hopening : Mark.of statement = .opening)
    (ht : t ∈ Shape.any.candidates statement) (hstart : t.start = statement.leadingBlanks) :
    ∃ o ∈ Tag.guard.shape.candidates statement, o.start = statement.leadingBlanks := by
  obtain ⟨family, -, haccepts⟩ :=
    exists_family_of_validate hvalid (mem_occurrences_of_start ht hstart)
  obtain ⟨argument, hargument⟩ := Option.isSome_iff_exists.mp haccepts
  have hcandidate := Shape.mem_candidates_of_accepts ht hargument
  have hmark := mark_prefix_of_mem_candidates hcandidate
  simp only [hstart] at hmark
  -- what the statement begins with decides the family
  have htag : family.tag = .guard :=
    tag_eq_of_mark_prefix hmark (guardLead_prefix_of_opening hopening)
  rw [Family.shape, htag] at hcandidate
  exact ⟨_, hcandidate, hstart⟩

/-- **The guard of an accepted statement is found** exactly if the statement is closed. -/
theorem found_iff_isClosed {suggester : Suggester} {statement : Text}
    (hvalid : suggester.validate statement = .ok ()) (hopening : Mark.of statement = .opening) :
    (∃ o, IsGuard statement o) ↔ IsClosed statement := by
  have hlead := guardLead_prefix_of_opening hopening
  have hline : ∀ k, statement.leadingBlanks ≤ k → k < statement.leadingBlanks + 4 →
      statement[k]? ≠ some (char '\n') ∧ statement[k]? ≠ some (char '>') := by
    intro k hk hlt
    obtain ⟨c, hc, hget⟩ := mem_guardLead hlead hk hlt
    have hfree : guardLead.all (fun d => d ≠ char '\n' && d ≠ char '>') = true := by decide
    simpa [hget] using List.all_eq_true.mp hfree c hc
  constructor
  · rintro ⟨o, hsearch, hstart⟩
    obtain ⟨close, hspans, -, -⟩ :=
      Shape.mem_candidates_leading_iff.mp (mem_candidates_of_search hsearch)
    have hreach := hspans.reaches
    simp only [hstart, show (Tag.guard.word ++ [char '_']).length = 3 from rfl] at hreach
    have hle := hreach.least_le
    refine ⟨close, by omega, hreach.closes, fun k hk hlt => ?_⟩
    by_cases hinside : k < statement.leadingBlanks + 4
    · exact (hline k hk hinside).1
    · exact hreach.oneLine k (by omega) hlt
  · rintro ⟨bracket, hle, hcloses, honeline⟩
    have hbehind : statement.leadingBlanks + 4 ≤ bracket := by
      by_contra hlt
      exact (hline bracket hle (by omega)).2 hcloses.1
    have hroom : statement.leadingBlanks + 2 ≤ bracket := by omega
    have hfree : ∀ k, statement.leadingBlanks + 1 ≤ k → k < bracket →
        statement[k]? ≠ some (char '\n') :=
      fun k hk => honeline k (by omega)
    obtain ⟨close, -, hreach⟩ := Shape.Reaches.exists_of_closes hroom hcloses hfree
    have hopen : statement[statement.leadingBlanks]? = some (char '<') :=
      getElem?_of_prefix_drop hlead (i := 0) (by decide)
    obtain ⟨t, ht, hstart, -⟩ := exists_mem_candidates_any hopen hreach
    obtain ⟨o, ho, hguard⟩ := exists_guard_of_token hvalid hopening ht hstart
    exact ⟨o, search_eq_some ho hguard, hguard⟩

/-! ## What becomes of the guard -/

/-- The families whose placeholders are replaced before guards are looked at. -/
def familiesBeforeGuards : List Family :=
  (Tag.all.takeWhile (· ≠ .guard)).map Family.ofTag

lemma exists_registry_eq :
    ∃ behind, registry = familiesBeforeGuards ++ Family.ofTag .guard :: behind :=
  ⟨[.selector, .element, .action, .assertion, .alert].map Family.ofTag, rfl⟩

/-- The guard is replaced by its code. -/
def IsRewritten (statement : Text) (o : Occurrence) : Prop :=
  ∃ code, (Family.ofTag .guard).render? o.argument = some code
    ∧ ⟨o.start, o.stop, code⟩ ∈ (Scan.run registry statement).splices

/-- The guard stays and is reported. -/
def IsReported (statement : Text) (o : Occurrence) : Prop :=
  ⟨.guard, Tag.guard.shape.token o.argument, statement⟩ ∈ (resolve statement).unresolved

/-- **Something inside the guard is replaced first**, so that the guard is passed over. -/
def IsPreempted (statement : Text) (o : Occurrence) : Prop :=
  ∃ splice ∈ (Scan.run familiesBeforeGuards statement).splices,
    o.start < splice.start ∧ splice.start < o.stop

instance (statement : Text) (o : Occurrence) : Decidable (IsPreempted statement o) :=
  inferInstanceAs (Decidable (∃ splice ∈ _, _))

/-- No family before the guards has a placeholder where the guard begins. -/
lemma start_lt_of_mem_splices {statement : Text} {o : Occurrence} {splice : Splice}
    (ho : o ∈ Tag.guard.shape.candidates statement)
    (hstart : o.start = statement.leadingBlanks)
    (h : splice ∈ (Scan.run familiesBeforeGuards statement).splices) :
    o.start < splice.start := by
  obtain ⟨⟨family, p⟩, hv, hsome⟩ := Scan.mem_splices_run h
  obtain ⟨hfamily, hp⟩ := mem_visits_iff.mp hv
  obtain ⟨code, -, rfl⟩ := Option.map_eq_some_iff.mp hsome
  have hcandidate := Shape.mem_candidates_of_mem_occurrences hp
  have hle := leadingBlanks_le_start hcandidate
  rcases Nat.lt_or_eq_of_le (hstart ▸ hle : o.start ≤ p.start) with hlt | heq
  · exact hlt
  · have hmark : family.tag.shape.mark <+: statement.drop p.start :=
      mark_prefix_of_mem_candidates hcandidate
    have hguard := mark_prefix_of_mem_candidates ho
    rw [heq] at hguard
    have htag := tag_eq_of_mark_prefix hmark hguard
    have hearlier : ∀ earlier ∈ familiesBeforeGuards, earlier.tag ≠ .guard := by
      intro earlier hearlier
      obtain ⟨tag, htag, rfl⟩ := List.mem_map.mp hearlier
      rw [Family.tag_ofTag]
      simpa using List.mem_takeWhile_imp htag
    exact absurd htag (hearlier family hfamily)

/-- **A guard that is found is rewritten or reported**, unless it is preempted; then it is
    not rewritten, but something inside it is. -/
theorem rewritten_or_reported {statement : Text} {o : Occurrence} (h : IsGuard statement o) :
    (¬ IsPreempted statement o → IsRewritten statement o ∨ IsReported statement o)
      ∧ (IsPreempted statement o → ¬ IsRewritten statement o
        ∧ ∃ splice ∈ (Scan.run registry statement).splices,
            o.start < splice.start ∧ splice.start < o.stop) := by
  obtain ⟨hsearch, hstart⟩ := h
  have ho := mem_candidates_of_search hsearch
  obtain ⟨behind, hregistry⟩ := exists_registry_eq
  constructor
  · intro hpreempted
    have huntouched : ∀ splice ∈ (Scan.run familiesBeforeGuards statement).splices,
        o.overlaps splice.start splice.stop = false := by
      intro splice hsplice
      have hlt := start_lt_of_mem_splices ho hstart hsplice
      have hbehind : o.stop ≤ splice.start := by
        by_contra hinside
        exact hpreempted ⟨splice, hsplice, hlt, by omega⟩
      simp only [Occurrence.overlaps, Bool.and_eq_false_iff, decide_eq_false_iff_not]
      exact Or.inr (by omega)
    have hoccurs : o ∈ (Family.ofTag .guard).shape.occurrences statement :=
      mem_occurrences_of_start ho hstart
    have hsettled := Scan.run_of_untouched behind hoccurs huntouched
    rw [← hregistry] at hsettled
    obtain ⟨hreplaced, hreported⟩ := hsettled
    cases hcode : (Family.ofTag .guard).render? o.argument with
    | none => exact Or.inr (hreported (by simp [spliceOf?, hcode]))
    | some code => exact Or.inl ⟨code, hcode, hreplaced _ (by simp [spliceOf?, hcode])⟩
  · rintro ⟨splice, hsplice, hlt, hinside⟩
    have hkept : splice ∈ (Scan.run registry statement).splices := by
      rw [hregistry, Scan.run_append]
      exact Scan.splices_after_mono _ _ hsplice
    refine ⟨?_, splice, hkept, hlt, hinside⟩
    rintro ⟨code, -, hmem⟩
    have hproper := (Scan.ordered_run registry statement).1 splice hkept
    have heq := Scan.eq_of_overlap hmem hkept (by simp only; omega) hinside
    rw [← heq] at hlt
    exact absurd hlt (by simp)

/-- The click inside is replaced first, up to the bracket that would have ended the guard. -/
example : IsPreempted "<if_<click_a> exists>".toText ⟨0, 21, "<click_a> exists".toText⟩ := by
  decide +kernel

/-! ## Blocks -/

lemma Node.isBlock_leaf (statement : Text) : (Node.leaf statement).isBlock = false := rfl

lemma Forest.isBlock_of_mem_map_leaf {node : Node} {statements : List Text}
    (h : node ∈ statements.map Node.leaf) : node.isBlock = false := by
  obtain ⟨statement, -, rfl⟩ := List.mem_map.mp h
  exact Node.isBlock_leaf statement

lemma Forest.opening_of_mem_gather {node : Node} : ∀ {statements : List Text},
    node ∈ (gather statements).2 → node.isBlock = true →
    node.statement ∈ statements ∧ Mark.of node.statement = .opening
      ∧ ∀ child ∈ node.children, child.isBlock = false
  | [], h, _ => by simp [gather] at h
  | statement :: rest, h, hblock => by
      have hrest : node ∈ (gather rest).2 → node.statement ∈ statement :: rest
          ∧ Mark.of node.statement = .opening
          ∧ ∀ child ∈ node.children, child.isBlock = false := by
        intro hmem
        obtain ⟨hstatement, hguard⟩ := opening_of_mem_gather hmem hblock
        exact ⟨List.mem_cons_of_mem statement hstatement, hguard⟩
      rw [gather] at h
      cases hmark : Mark.of statement with
      | plain =>
          rw [hmark] at h
          exact hrest h
      | closing =>
          rw [hmark] at h
          rcases List.mem_append.mp h with h | h
          · rw [isBlock_of_mem_map_leaf h] at hblock
            exact absurd hblock (by simp)
          · exact hrest h
      | opening =>
          rw [hmark] at h
          rcases List.mem_cons.mp h with rfl | h
          · exact ⟨by simp [Node.guarded], hmark,
              fun child hchild => isBlock_of_mem_map_leaf hchild⟩
          · exact hrest h

/-- **Only guards have blocks**, and there are no blocks inside. -/
theorem Forest.opening_of_isBlock {node : Node} {statements : List Text}
    (h : node ∈ ofStatements statements) (hblock : node.isBlock = true) :
    node.statement ∈ statements ∧ Mark.of node.statement = .opening
      ∧ ∀ child ∈ node.children, child.isBlock = false := by
  rw [ofStatements_eq_gather] at h
  rcases List.mem_append.mp h with h | h
  · rw [isBlock_of_mem_map_leaf h] at hblock
    exact absurd hblock (by simp)
  · exact opening_of_mem_gather h hblock

/-- **When grouping and resolution agree on guards.**  The guard of an accepted statement that opens
    a block is found where the statement begins exactly if the statement is closed on its line.  A
    guard that is found is rewritten or reported, unless a placeholder inside it is replaced first.
    These statements are the only ones that have blocks. -/
theorem guards_found_iff (suggester : Suggester) :
    (∀ statement : Text, suggester.validate statement = .ok () → Mark.of statement = .opening →
        ((∃ o, IsGuard statement o) ↔ IsClosed statement)
          ∧ ∀ o, IsGuard statement o →
            (¬ IsPreempted statement o → IsRewritten statement o ∨ IsReported statement o)
              ∧ (IsPreempted statement o → ¬ IsRewritten statement o
                ∧ ∃ splice ∈ (Scan.run registry statement).splices,
                    o.start < splice.start ∧ splice.start < o.stop))
      ∧ ∀ (statements : List Text), ∀ node ∈ Forest.ofStatements statements, node.isBlock = true →
          node.statement ∈ statements ∧ Mark.of node.statement = .opening
            ∧ ∀ child ∈ node.children, child.isBlock = false :=
  ⟨fun _ hvalid hopening => ⟨found_iff_isClosed hvalid hopening, fun _ => rewritten_or_reported⟩,
    fun _ _ => Forest.opening_of_isBlock⟩

/-- The case of a guard with a bracket in its argument, blanks in front of it and prose behind. -/
theorem guard_found_in_prose :
    let statement := "\t <if_ul > li exists> now".toText
    let o : Occurrence := ⟨2, 21, "ul > li exists".toText⟩
    (Suggester.validate { threshold := 10 } statement = .ok () ∧ Mark.of statement = .opening)
      ∧ IsClosed statement ∧ (IsRewritten statement o ∨ IsReported statement o) := by
  intro statement o
  have hvalid : Suggester.validate { threshold := 10 } statement = .ok () := by decide +kernel
  have hopening : Mark.of statement = .opening := by decide +kernel
  have hguard : IsGuard statement o := ⟨by decide +kernel, by decide +kernel⟩
  obtain ⟨hfound, hsettled⟩ := (guards_found_iff { threshold := 10 }).1 statement hvalid hopening
  exact ⟨⟨hvalid, hopening⟩, hfound.mp ⟨o, hguard⟩, (hsettled o hguard).1 (by decide +kernel)⟩

/-- **Blocks whose guard escapes.**  The beginning `<if_` opens a block although no bracket closes
    it: no search finds a guard, nothing is reported, and the header holds the raw text.  And a
    click that reaches from the argument of a guard to its end is replaced first, so that the guard
    is found, but neither rewritten nor reported. -/
theorem guards_escape :
    let truncated := "<if_#a exists".toText
    let crossed := "<if_<click_a> exists>".toText
    let o : Occurrence := ⟨0, 21, "<click_a> exists".toText⟩
    (Suggester.validate { threshold := 10 } truncated = .ok () ∧ Mark.of truncated = .opening
        ∧ (¬ ∃ o, IsGuard truncated o)
        ∧ Forest.emit "  ".toText 0 (Forest.ofStatements [truncated, "<click_b>".toText])
          = ⟨["if (<if_#a exists) \x7b".toText, "  cy.get('b').click()".toText, "\x7d".toText], []⟩)
      ∧ (Suggester.validate { threshold := 10 } crossed = .ok () ∧ Mark.of crossed = .opening
        ∧ IsGuard crossed o ∧ ¬ IsRewritten crossed o ∧ ¬ IsReported crossed o
        ∧ Forest.emit "  ".toText 0 (Forest.ofStatements [crossed, "<click_b>".toText])
          = ⟨["if (<if_cy.get('a> exists').click()) \x7b".toText, "  cy.get('b').click()".toText,
            "\x7d".toText], []⟩) := by
  intro truncated crossed o
  have hsearch : Tag.guard.shape.search truncated 0 = none := by decide +kernel
  have hguard : IsGuard crossed o := ⟨by decide +kernel, by decide +kernel⟩
  have hpreempted : IsPreempted crossed o := by decide +kernel
  have hreports : (resolve crossed).unresolved = [] := by decide +kernel
  refine ⟨⟨by decide +kernel, by decide +kernel, ?_, by decide +kernel⟩,
    by decide +kernel, by decide +kernel, hguard, ?_, ?_, by decide +kernel⟩
  · rintro ⟨o, hfound, -⟩
    rw [hsearch] at hfound
    exact absurd hfound (by simp)
  · exact ((rewritten_or_reported hguard).2 hpreempted).1
  · intro hreported
    rw [IsReported, hreports] at hreported
    exact absurd hreported (by simp)

end ScenarioScript
