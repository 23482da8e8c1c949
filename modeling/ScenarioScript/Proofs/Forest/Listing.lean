import ScenarioScript.Proofs.Forest.Ownership

/-!
# Forests written as lists of statements

A forest of grouped roots can be written down as statements and read again.  A guard is closed
behind what it owns even if a marker follows anyway, or nothing follows at all, so that every root
is written without regard to its neighbours.

* `Node.listing` and `Forest.listing` — the statements that stand for a root and for a forest.
* `Forest.ofStatements_listing_append` — **one root is read back**, whatever stands behind it.
* `Forest.ofStatements_listing_iff` — so is a forest, exactly if all its roots are grouped.
* `Forest.grouping_inverts_listing` — grouping, listing and grouping again is grouping.
-/

namespace ScenarioScript

/-- **The statements that stand for a root.** -/
def Node.listing (node : Node) : List Text :=
  if node.conditional then
    node.statement :: (node.children.map Node.statement ++ [closingMarker])
  else [node.statement]

namespace Forest

/-- **The statements that stand for a forest.** -/
def listing (forest : Forest) : List Text :=
  forest.flatMap Node.listing

/-! ## Reading one root -/

section Read

variable {statement : Text} {body : List Text}

lemma ofStatements_cons_plain (h : Mark.of statement = .plain) (rest : List Text) :
    ofStatements (statement :: rest) = Node.leaf statement :: ofStatements rest := by
  simp [ofStatements_eq_gather, gather, h]

lemma gather_cons_closing (h : Mark.of statement = .closing) (rest : List Text) :
    gather (statement :: rest) = ([], ofStatements rest) := by
  simp [ofStatements_eq_gather, gather, h]

/-- Plain statements are set apart together with those that are set apart behind them. -/
lemma gather_append_of_plain (h : ∀ s ∈ body, Mark.of s = .plain) (rest : List Text) :
    gather (body ++ rest) = (body ++ (gather rest).1, (gather rest).2) := by
  induction body with
  | nil => rfl
  | cons s body ih =>
      obtain ⟨hs, hbody⟩ := List.forall_mem_cons.mp h
      rw [List.cons_append, gather, ih hbody, hs]
      rfl

/-- A guard owns the plain statements up to the closing marker, and nothing behind it. -/
lemma ofStatements_cons_opening (hopening : Mark.of statement = .opening)
    (hbody : ∀ s ∈ body, Mark.of s = .plain) (rest : List Text) :
    ofStatements (statement :: (body ++ closingMarker :: rest))
      = Node.guarded statement body :: ofStatements rest := by
  have hclosing : Mark.of closingMarker = .closing := by decide
  have hgather : gather (body ++ closingMarker :: rest) = (body, ofStatements rest) := by
    rw [gather_append_of_plain hbody, gather_cons_closing hclosing, List.append_nil]
  simp [ofStatements_eq_gather, gather, hopening, hgather]

end Read

lemma listing_guarded (statement : Text) (body : List Text) :
    (Node.guarded statement body).listing = statement :: (body ++ [closingMarker]) := by
  have hbody : (body.map Node.leaf).map Node.statement = body := by
    rw [List.map_map]
    exact List.map_id body
  rw [Node.listing, Node.guarded, if_pos rfl, hbody]

/-- **A root is read back**, and what stands behind it is grouped on its own. -/
lemma ofStatements_listing_append {node : Node} (h : node.IsGrouped) (rest : List Text) :
    ofStatements (node.listing ++ rest) = node :: ofStatements rest := by
  cases h with
  | leaf hplain => exact ofStatements_cons_plain hplain rest
  | guarded hopening hbody =>
      rw [listing_guarded, List.cons_append, List.append_assoc, List.singleton_append]
      exact ofStatements_cons_opening hopening hbody rest

/-! ## Reading a forest -/

lemma ofStatements_listing {forest : Forest} (h : ∀ node ∈ forest, node.IsGrouped) :
    ofStatements (listing forest) = forest := by
  induction forest with
  | nil => rfl
  | cons node forest ih =>
      obtain ⟨hnode, hforest⟩ := List.forall_mem_cons.mp h
      rw [listing, List.flatMap_cons, ofStatements_listing_append hnode, ← listing, ih hforest]

/-- **Exactly the forests with grouped roots are read back.** -/
lemma ofStatements_listing_iff (forest : Forest) :
    ofStatements (listing forest) = forest ↔ ∀ node ∈ forest, node.IsGrouped := by
  constructor
  · intro h node hnode
    rw [← h] at hnode
    exact isGrouped_ofStatements hnode
  · exact ofStatements_listing

/-- **Grouping is a left inverse of listing.**  A forest is read back from its listing exactly if
    all its roots are plain statements, or guards that own plain statements.  All roots that
    grouping makes are of this form, so that a grouped list can be listed and grouped again without
    any change. -/
theorem grouping_inverts_listing :
    (∀ forest : Forest,
        ofStatements (listing forest) = forest ↔ ∀ node ∈ forest, node.IsGrouped)
      ∧ (∀ statements, ∀ node ∈ ofStatements statements, node.IsGrouped)
      ∧ ∀ statements, ofStatements (listing (ofStatements statements)) = ofStatements statements :=
  ⟨ofStatements_listing_iff, fun _ _ => isGrouped_ofStatements,
    fun _ => ofStatements_listing fun _ => isGrouped_ofStatements⟩

/-- The case of a guard that owns nothing, in front of a plain root, and of a guard that owns two
    statements and ends the forest. -/
theorem grouping_inverts_listing_idle_guard :
    let forest := [Node.guarded "<if_a exists>".toText [], Node.leaf "x".toText,
      Node.guarded " <if_b exists>".toText ["y".toText, "z".toText]]
    (∀ node ∈ forest, node.IsGrouped)
      ∧ listing forest = ["<if_a exists>".toText, "<if_end>".toText, "x".toText,
        " <if_b exists>".toText, "y".toText, "z".toText, "<if_end>".toText]
      ∧ ofStatements (listing forest) = forest
      ∧ Node.leaf "x".toText ∈ ofStatements (listing forest)
      ∧ (Node.leaf "x".toText).IsGrouped := by
  intro forest
  obtain ⟨hiff, hgrouped, -⟩ := grouping_inverts_listing
  have hforest : ∀ node ∈ forest, node.IsGrouped := by
    intro node hnode
    simp only [forest, List.mem_cons, List.not_mem_nil, or_false] at hnode
    rcases hnode with rfl | rfl | rfl
    · exact .guarded (by decide) (by simp)
    · exact .leaf (by decide)
    · exact .guarded (by decide) (by decide)
  have hback : ofStatements (listing forest) = forest := (hiff forest).mpr hforest
  have hmem : Node.leaf "x".toText ∈ ofStatements (listing forest) := by
    rw [hback]
    simp [forest]
  exact ⟨hforest, by decide, hback, hmem, hgrouped (listing forest) _ hmem⟩

end Forest

end ScenarioScript
