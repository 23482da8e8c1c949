import Mathlib.Data.List.Basic
import ScenarioScript.Proofs.Forest.Traversal

/-!
# Which guard owns which statement

A forest can be described position by position.  Its nodes are numbered in the order of
`Forest.traverse`; a statement that is kept becomes the node whose number is that of the kept
statements in front of it (`nodeIndex`), and `Forest.owners` lists for every node the number of the
node that owns it.

* `Node.IsGrouped` — the two kinds of roots that grouping makes (`Forest.isGrouped_ofStatements`).
* `Forest.assign` — owners from left to right, where all that has to be remembered is the number of
  the open guard.  Grouping gives the same owners (`Forest.owners_ofStatements`).
* `IsLastMarker` — the last marker in front of a position.  It decides about the owner
  (`Forest.owner_behind_marker`, `Forest.owner_of_no_marker`).
* `Forest.shape_ofStatements` — **the shape of a forest**: statements, kinds of nodes, owners.
-/

namespace ScenarioScript

/-! ## Roots -/

/-- **The roots that grouping makes**: a plain statement, or a guard and the plain statements that
    it owns. -/
inductive Node.IsGrouped : Node → Prop where
  | leaf {statement : Text} : Mark.of statement = .plain → IsGrouped (Node.leaf statement)
  | guarded {statement : Text} {body : List Text} : Mark.of statement = .opening →
      (∀ s ∈ body, Mark.of s = .plain) → IsGrouped (Node.guarded statement body)

namespace Forest

/-- The statements set apart are plain, and all roots are grouped. -/
lemma isGrouped_gather (statements : List Text) :
    (∀ s ∈ (gather statements).1, Mark.of s = .plain)
      ∧ ∀ node ∈ (gather statements).2, node.IsGrouped := by
  induction statements with
  | nil => simp [gather]
  | cons statement rest ih =>
      obtain ⟨hbody, hforest⟩ := ih
      rw [gather]
      cases hmark : Mark.of statement with
      | plain => exact ⟨by simpa [hmark] using hbody, hforest⟩
      | opening => exact ⟨by simp, by simpa using ⟨.guarded hmark hbody, hforest⟩⟩
      | closing =>
          refine ⟨by simp, fun node hnode => ?_⟩
          rcases List.mem_append.mp hnode with h | h
          · obtain ⟨s, hs, rfl⟩ := List.mem_map.mp h
            exact .leaf (hbody s hs)
          · exact hforest node h

/-- **Every root is of one of the two kinds.** -/
lemma isGrouped_ofStatements {statements : List Text} {node : Node}
    (h : node ∈ ofStatements statements) : node.IsGrouped := by
  obtain ⟨hbody, hforest⟩ := isGrouped_gather statements
  rw [ofStatements_eq_gather] at h
  rcases List.mem_append.mp h with h | h
  · obtain ⟨s, hs, rfl⟩ := List.mem_map.mp h
    exact .leaf (hbody s hs)
  · exact hforest node h

end Forest

/-! ## Owners -/

mutual

def Node.ownersFrom (owner : Option Nat) (index : Nat) : Node → List (Option Nat)
  | ⟨_, _, children⟩ => owner :: Forest.ownersFrom (some index) (index + 1) children

/-- The owners of the nodes of a forest, the first of which has the number `index`; `owner` owns the
    roots. -/
def Forest.ownersFrom (owner : Option Nat) : (index : Nat) → Forest → List (Option Nat)
  | _, [] => []
  | index, node :: forest =>
    node.ownersFrom owner index ++ Forest.ownersFrom owner (index + node.count) forest

end

namespace Forest

/-- **The owners of the nodes of a forest**, by number; `none` for a root. -/
def owners (forest : Forest) : List (Option Nat) :=
  Forest.ownersFrom none 0 forest

/-- **Owners from left to right.** `scope` is the number of the open guard, if there is one, and
    `index` that of the next node. -/
def assign : (scope : Option Nat) → (index : Nat) → List Text → List (Option Nat)
  | _, _, [] => []
  | scope, index, statement :: rest =>
    match Mark.of statement with
    | .closing => assign none index rest
    | .opening => none :: assign (some index) (index + 1) rest
    | .plain => scope :: assign scope (index + 1) rest

lemma ownersFrom_map_leaf_append (owner : Option Nat) (forest : Forest) :
    ∀ (index : Nat) (statements : List Text),
      Forest.ownersFrom owner index (statements.map Node.leaf ++ forest)
        = statements.map (fun _ => owner)
          ++ Forest.ownersFrom owner (index + statements.length) forest
  | _, [] => rfl
  | index, statement :: rest => by
      have ih := ownersFrom_map_leaf_append owner forest (index + 1) rest
      simp only [List.map_cons, List.cons_append, Node.leaf, Forest.ownersFrom, Node.ownersFrom,
        Node.count, Forest.count, List.nil_append, Nat.add_zero, List.length_cons] at ih ⊢
      rw [ih, Nat.add_assoc, Nat.add_comm 1]

lemma ownersFrom_guarded (owner : Option Nat) (index : Nat) (statement : Text) (body : List Text) :
    (Node.guarded statement body).ownersFrom owner index
        = owner :: body.map (fun _ => some index)
      ∧ (Node.guarded statement body).count = body.length + 1 := by
  have hleaves := ownersFrom_map_leaf_append (some index) [] (index + 1) body
  simp only [List.append_nil, Forest.ownersFrom] at hleaves
  have hcount : Forest.count (body.map Node.leaf) = body.length := by
    rw [count_eq_length_traverse, traverse_map_leaf]
  simp only [Node.guarded, Node.ownersFrom, Node.count, hleaves, hcount, Nat.add_comm 1]
  exact ⟨trivial, trivial⟩

/-- **What the rest of a list assigns**: the open guard owns the plain statements at its head, and
    what follows is the forest behind them. -/
lemma assign_eq_gather (scope : Option Nat) (index : Nat) (statements : List Text) :
    assign scope index statements
      = (gather statements).1.map (fun _ => scope)
        ++ Forest.ownersFrom none (index + (gather statements).1.length) (gather statements).2 := by
  induction statements generalizing scope index with
  | nil => simp [assign, gather, Forest.ownersFrom]
  | cons statement rest ih =>
      rw [assign, gather]
      cases hmark : Mark.of statement with
      | plain => simp [ih, Nat.add_assoc, Nat.add_comm 1]
      | closing => simp [ih, ownersFrom_map_leaf_append]
      | opening =>
          obtain ⟨howners, hcount⟩ :=
            ownersFrom_guarded none index statement (gather rest).1
          simp [ih, Forest.ownersFrom, howners, hcount, Nat.add_assoc, Nat.add_comm 1]

/-- **Grouping gives the owners that are assigned from left to right.** -/
lemma owners_ofStatements (statements : List Text) :
    owners (ofStatements statements) = assign none 0 statements := by
  rw [owners, ofStatements_eq_gather, ownersFrom_map_leaf_append, assign_eq_gather]

end Forest

/-! ## Positions -/

/-- **The number of the node** that the statement at a position becomes, if it is kept: that of the
    kept statements in front of it. -/
def nodeIndex (statements : List Text) (position : Nat) : Nat :=
  (kept (statements.take position)).length

/-- **The last marker in front of a position.** -/
structure IsLastMarker (statements : List Text) (marker position : Nat) : Prop where
  lt : marker < position
  marks : ∃ s, statements[marker]? = some s ∧ Mark.of s ≠ .plain
  plain : ∀ k s, marker < k → k < position → statements[k]? = some s → Mark.of s = .plain

lemma kept_append (first second : List Text) : kept (first ++ second) = kept first ++ kept second :=
  List.filter_append first second

lemma kept_of_plain {statements : List Text} (h : ∀ s ∈ statements, Mark.of s = .plain) :
    kept statements = statements :=
  List.filter_eq_self.mpr fun s hs => by simp [h s hs]

lemma exists_append_of_getElem? {statements : List Text} {position : Nat} {statement : Text}
    (h : statements[position]? = some statement) :
    ∃ before behind, statements = before ++ statement :: behind ∧ before.length = position := by
  obtain ⟨hlt, rfl⟩ := List.getElem?_eq_some_iff.mp h
  refine ⟨statements.take position, statements.drop (position + 1), ?_, ?_⟩
  · rw [← List.drop_eq_getElem_cons hlt, List.take_append_drop]
  · rw [List.length_take, Nat.min_eq_left (Nat.le_of_lt hlt)]

lemma nodeIndex_append (before rest : List Text) :
    nodeIndex (before ++ rest) before.length = (kept before).length := by
  rw [nodeIndex, List.take_left]

/-- **The node of a kept statement** holds that statement. -/
lemma getElem?_kept_nodeIndex {statements : List Text} {position : Nat} {statement : Text}
    (h : statements[position]? = some statement) (hkept : Mark.of statement ≠ .closing) :
    (kept statements)[nodeIndex statements position]? = some statement := by
  obtain ⟨before, behind, rfl, rfl⟩ := exists_append_of_getElem? h
  rw [nodeIndex_append, kept_append, kept_cons_of_ne hkept, List.getElem?_append_right (by simp)]
  simp

/-- Nodes are numbered in the order of the statements. -/
lemma nodeIndex_lt {statements : List Text} {first second : Nat} {statement : Text}
    (h : statements[first]? = some statement) (hkept : Mark.of statement ≠ .closing)
    (hlt : first < second) : nodeIndex statements first < nodeIndex statements second := by
  obtain ⟨before, behind, rfl, rfl⟩ := exists_append_of_getElem? h
  obtain ⟨more, rfl⟩ := Nat.exists_eq_add_of_lt hlt
  rw [nodeIndex_append, nodeIndex, Nat.add_assoc, List.take_length_add_append, List.take_succ_cons,
    kept_append, kept_cons_of_ne hkept, List.length_append, List.length_cons]
  omega

/-- Different kept statements become different nodes. -/
lemma eq_of_nodeIndex_eq {statements : List Text} {first second : Nat} {s t : Text}
    (hs : statements[first]? = some s) (ht : statements[second]? = some t)
    (hskept : Mark.of s ≠ .closing) (htkept : Mark.of t ≠ .closing)
    (h : nodeIndex statements first = nodeIndex statements second) : first = second := by
  rcases Nat.lt_trichotomy first second with hlt | heq | hgt
  · have := nodeIndex_lt hs hskept hlt
    omega
  · exact heq
  · have := nodeIndex_lt ht htkept hgt
    omega

namespace IsLastMarker

variable {statements : List Text} {position : Nat}

/-- There is one last marker at most. -/
lemma unique {marker marker' : Nat} (h : IsLastMarker statements marker position)
    (h' : IsLastMarker statements marker' position) : marker = marker' := by
  obtain ⟨s, hs, hmark⟩ := h.marks
  obtain ⟨s', hs', hmark'⟩ := h'.marks
  rcases Nat.lt_trichotomy marker marker' with hlt | heq | hgt
  · exact absurd (h.plain marker' s' hlt h'.lt hs') hmark'
  · exact heq
  · exact absurd (h'.plain marker s hgt h.lt hs) hmark

/-- A marker with plain statements behind it is the last one. -/
lemma of_append (front : List Text) {between : List Text} (rest : List Text) {marker : Text}
    (hmark : Mark.of marker ≠ .plain) (hplain : ∀ s ∈ between, Mark.of s = .plain) :
    IsLastMarker (front ++ marker :: (between ++ rest)) front.length
      (front ++ marker :: between).length := by
  refine ⟨by simp, ⟨marker, by simp, hmark⟩, fun k s hlt hk hget => hplain s ?_⟩
  obtain ⟨i, rfl⟩ := Nat.exists_eq_add_of_lt hlt
  rw [Nat.add_assoc, List.getElem?_append_right (by omega), Nat.add_sub_cancel_left,
    List.getElem?_cons_succ, List.getElem?_append_left (by simp at hk; omega)] at hget
  exact List.mem_of_getElem? hget

end IsLastMarker

/-- A list has a last marker, unless it has none at all. -/
lemma lastMarker_cases : ∀ statements : List Text,
    (∀ s ∈ statements, Mark.of s = .plain)
      ∨ ∃ front marker between, statements = front ++ marker :: between
        ∧ Mark.of marker ≠ .plain ∧ ∀ s ∈ between, Mark.of s = .plain
  | [] => .inl (by simp)
  | statement :: rest => by
      rcases lastMarker_cases rest with hplain | ⟨front, marker, between, rfl, hmark, hplain⟩
      · by_cases hmark : Mark.of statement = .plain
        · exact .inl (by simpa [hmark] using hplain)
        · exact .inr ⟨[], statement, rest, rfl, hmark, hplain⟩
      · exact .inr ⟨statement :: front, marker, between, rfl, hmark, hplain⟩

/-! ## The owner at a position -/

namespace Forest

lemma length_assign (scope : Option Nat) (index : Nat) (statements : List Text) :
    (assign scope index statements).length = (kept statements).length := by
  induction statements generalizing scope index with
  | nil => rfl
  | cons statement rest ih =>
      rw [assign]
      cases hmark : Mark.of statement with
      | plain => simp [kept_cons_of_ne, hmark, ih]
      | opening => simp [kept_cons_of_ne, hmark, ih]
      | closing => simp [kept_cons_closing hmark, ih]

/-- The statements in front decide only which guard is open. -/
lemma exists_assign_append (scope : Option Nat) (index : Nat) (before rest : List Text) :
    ∃ scope', assign scope index (before ++ rest)
      = assign scope index before ++ assign scope' (index + (kept before).length) rest := by
  induction before generalizing scope index with
  | nil => exact ⟨scope, rfl⟩
  | cons statement before ih =>
      simp only [List.cons_append, assign]
      cases hmark : Mark.of statement with
      | plain =>
          obtain ⟨scope', h⟩ := ih scope (index + 1)
          exact ⟨scope', by simp [h, kept_cons_of_ne, hmark, Nat.add_assoc, Nat.add_comm 1]⟩
      | opening =>
          obtain ⟨scope', h⟩ := ih (some index) (index + 1)
          exact ⟨scope', by simp [h, kept_cons_of_ne, hmark, Nat.add_assoc, Nat.add_comm 1]⟩
      | closing =>
          obtain ⟨scope', h⟩ := ih none index
          exact ⟨scope', by simp [h, kept_cons_closing hmark]⟩

/-- Plain statements leave the open guard open. -/
lemma assign_of_plain {between : List Text} (hplain : ∀ s ∈ between, Mark.of s = .plain)
    (scope : Option Nat) (index : Nat) (rest : List Text) :
    assign scope index (between ++ rest)
      = between.map (fun _ => scope) ++ assign scope (index + between.length) rest := by
  induction between generalizing index with
  | nil => rfl
  | cons s between ih =>
      obtain ⟨hs, hrest⟩ := List.forall_mem_cons.mp hplain
      simp [assign, hs, ih hrest, Nat.add_assoc, Nat.add_comm 1]

section Owner

variable {statement : Text} (behind : List Text)

/-- Without a marker in front of it a plain statement is a root. -/
lemma owner_of_no_marker {before : List Text} (hbefore : ∀ s ∈ before, Mark.of s = .plain)
    (hplain : Mark.of statement = .plain) :
    (owners (ofStatements (before ++ statement :: behind)))[
        nodeIndex (before ++ statement :: behind) before.length]? = some none := by
  rw [owners_ofStatements, assign_of_plain hbefore, nodeIndex_append, kept_of_plain hbefore,
    List.getElem?_append_right (by simp), assign, hplain]
  simp

/-- **The last marker decides**: if it is a guard, it owns the plain statement. -/
lemma owner_behind_marker (front : List Text) {between : List Text} {marker : Text}
    (hmark : Mark.of marker ≠ .plain) (hbetween : ∀ s ∈ between, Mark.of s = .plain)
    (hplain : Mark.of statement = .plain) :
    (owners (ofStatements (front ++ marker :: (between ++ statement :: behind))))[
        nodeIndex (front ++ marker :: (between ++ statement :: behind))
          (front ++ marker :: between).length]?
      = some (if Mark.of marker = .opening then
          some (nodeIndex (front ++ marker :: (between ++ statement :: behind)) front.length)
        else none) := by
  have hposition := nodeIndex_append (front ++ marker :: between) (statement :: behind)
  rw [List.append_assoc, List.cons_append] at hposition
  obtain ⟨scope, happend⟩ :=
    exists_assign_append none 0 front (marker :: (between ++ statement :: behind))
  have hlength := length_assign none 0 front
  rw [hposition, nodeIndex_append, owners_ofStatements, happend, kept_append,
    List.length_append, ← hlength, List.getElem?_append_right (by omega), Nat.add_sub_cancel_left,
    hlength, assign]
  cases hcase : Mark.of marker with
  | plain => exact absurd hcase hmark
  | opening =>
      simp [kept_cons_of_ne, hcase, kept_of_plain hbetween, assign_of_plain hbetween, assign,
        hplain]
  | closing =>
      simp [kept_cons_closing hcase, kept_of_plain hbetween, assign_of_plain hbetween, assign,
        hplain]

/-- A guard is a root. -/
lemma owner_of_opening {before : List Text} (h : Mark.of statement = .opening) :
    (owners (ofStatements (before ++ statement :: behind)))[
        nodeIndex (before ++ statement :: behind) before.length]? = some none := by
  obtain ⟨scope, happend⟩ := exists_assign_append none 0 before (statement :: behind)
  rw [owners_ofStatements, happend, nodeIndex_append,
    List.getElem?_append_right (by simp [length_assign]), length_assign, assign, h]
  simp

end Owner

/-! ## The shape of a forest -/

/-- The statement at `position` becomes a node that the node of the statement at `guard` owns. -/
def Owns (statements : List Text) (guard position : Nat) : Prop :=
  (owners (ofStatements statements))[nodeIndex statements position]?
    = some (some (nodeIndex statements guard))

/-- The statement at `position` becomes a root. -/
def IsRootAt (statements : List Text) (position : Nat) : Prop :=
  (owners (ofStatements statements))[nodeIndex statements position]? = some none

lemma node_of_isGrouped {node : Node} (h : node.IsGrouped) :
    (node.conditional = true ↔ Mark.of node.statement = .opening)
      ∧ (node.children ≠ [] → node.conditional = true)
      ∧ ∀ child ∈ node.children, child.conditional = false
        ∧ Mark.of child.statement = .plain ∧ child.children = [] := by
  cases h with
  | leaf hplain => simp [Node.leaf, hplain]
  | guarded hopening hbody =>
      refine ⟨by simp [Node.guarded, hopening], fun _ => rfl, fun child hchild => ?_⟩
      obtain ⟨s, hs, rfl⟩ := List.mem_map.mp hchild
      exact ⟨rfl, hbody s hs, rfl⟩

/-- **The owner of a plain statement**: the last marker in front of it, if that is a guard, and
    otherwise none. -/
lemma owns_iff_of_plain {statements : List Text} {position : Nat} {statement : Text}
    (h : statements[position]? = some statement) (hplain : Mark.of statement = .plain) :
    (∀ guard s, statements[guard]? = some s → Mark.of s ≠ .closing →
        (Owns statements guard position
          ↔ IsLastMarker statements guard position ∧ Mark.of s = .opening))
      ∧ (IsRootAt statements position
        ↔ ¬ ∃ guard s, statements[guard]? = some s ∧ Mark.of s = .opening
            ∧ IsLastMarker statements guard position) := by
  obtain ⟨before, behind, rfl, rfl⟩ := exists_append_of_getElem? h
  rcases lastMarker_cases before with hbefore | ⟨front, marker, between, rfl, hmark, hbetween⟩
  · -- no marker at all
    have hroot := owner_of_no_marker behind hbefore hplain
    have hnone : ∀ guard, ¬ IsLastMarker (before ++ statement :: behind) guard before.length := by
      rintro guard ⟨hlt, ⟨s, hs, hmark⟩, -⟩
      rw [List.getElem?_append_left hlt] at hs
      exact hmark (hbefore s (List.mem_of_getElem? hs))
    refine ⟨fun guard s _ _ => ?_, ?_⟩
    · rw [Owns, hroot]
      simp [hnone guard]
    · rw [IsRootAt, hroot]
      simp [hnone]
  · have howner := owner_behind_marker behind front hmark hbetween hplain
    have hlast := IsLastMarker.of_append front (statement :: behind) hmark hbetween
    have hmarker : (front ++ marker :: (between ++ statement :: behind))[front.length]?
        = some marker := by simp
    rw [List.append_assoc, List.cons_append]
    set statements := front ++ marker :: (between ++ statement :: behind)
    have hunique : ∀ guard s, statements[guard]? = some s →
        IsLastMarker statements guard (front ++ marker :: between).length →
        guard = front.length ∧ s = marker := by
      intro guard s hs hguard
      obtain rfl := hguard.unique hlast
      exact ⟨rfl, Option.some.inj (hs.symm.trans hmarker)⟩
    by_cases hopening : Mark.of marker = .opening
    · -- a guard is open
      rw [if_pos hopening] at howner
      refine ⟨fun guard s hs hkept => ?_, ?_⟩
      · rw [Owns, howner, Option.some.injEq, Option.some.injEq]
        constructor
        · intro heq
          obtain rfl := eq_of_nodeIndex_eq hmarker hs (by simp [hopening]) hkept heq
          obtain rfl := Option.some.inj (hmarker.symm.trans hs)
          exact ⟨hlast, hopening⟩
        · rintro ⟨hguard, -⟩
          rw [(hunique guard s hs hguard).1]
      · rw [IsRootAt, howner]
        exact ⟨fun h => absurd h (by simp),
          fun h => absurd ⟨front.length, marker, hmarker, hopening, hlast⟩ h⟩
    · -- the last guard has been closed
      rw [if_neg hopening] at howner
      have hnone : ∀ guard s, statements[guard]? = some s → Mark.of s = .opening →
          ¬ IsLastMarker statements guard (front ++ marker :: between).length := by
        intro guard s hs hs' hguard
        exact hopening ((hunique guard s hs hguard).2 ▸ hs')
      refine ⟨fun guard s hs _ => ?_, ?_⟩
      · rw [Owns, howner]
        exact ⟨fun h => absurd h (by simp), fun h => absurd h.1 (hnone guard s hs h.2)⟩
      · rw [IsRootAt, howner]
        exact ⟨fun _ ⟨guard, s, hs, hs', hguard⟩ => hnone guard s hs hs' hguard, fun _ => rfl⟩

/-- **The shape of a forest.**  Its statements from left to right are those that are no closing
    markers, so that it has as many nodes.  Exactly the guards are conditional; nothing else owns
    anything, and what a guard owns is plain and owns nothing.  Every kept statement becomes the
    node with its number.  Guards are roots; a plain statement is owned by the last marker in front
    of it if that is a guard, and is a root otherwise. -/
theorem shape_ofStatements (statements : List Text) :
    Forest.traverse (ofStatements statements) = kept statements
      ∧ Forest.count (ofStatements statements) = (kept statements).length
      ∧ (∀ node ∈ ofStatements statements,
        (node.conditional = true ↔ Mark.of node.statement = .opening)
          ∧ (node.children ≠ [] → node.conditional = true)
          ∧ ∀ child ∈ node.children, child.conditional = false
            ∧ Mark.of child.statement = .plain ∧ child.children = [])
      ∧ ∀ position statement, statements[position]? = some statement →
        (Mark.of statement ≠ .closing →
            (Forest.traverse (ofStatements statements))[nodeIndex statements position]?
              = some statement)
          ∧ (Mark.of statement = .opening → IsRootAt statements position)
          ∧ (Mark.of statement = .plain →
            (∀ guard s, statements[guard]? = some s → Mark.of s ≠ .closing →
                (Owns statements guard position
                  ↔ IsLastMarker statements guard position ∧ Mark.of s = .opening))
              ∧ (IsRootAt statements position
                ↔ ¬ ∃ guard s, statements[guard]? = some s ∧ Mark.of s = .opening
                    ∧ IsLastMarker statements guard position)) := by
  have htraverse := traverse_ofStatements statements
  refine ⟨htraverse, ?_, fun node hnode => node_of_isGrouped (isGrouped_ofStatements hnode),
    fun position statement h => ⟨fun hkept => ?_, fun hopening => ?_, owns_iff_of_plain h⟩⟩
  · rw [count_eq_length_traverse, htraverse]
  · rw [htraverse]
    exact getElem?_kept_nodeIndex h hkept
  · obtain ⟨before, behind, rfl, rfl⟩ := exists_append_of_getElem? h
    exact owner_of_opening behind hopening

/-- The case of a guard that is closed, a statement behind it, and two guards of which the second
    replaces the first. -/
theorem shape_ofStatements_replaced_guard :
    let statements := ["<if_a exists>".toText, "x".toText, "<if_end>".toText, "y".toText,
      "<if_b exists>".toText, "<if_c exists>".toText, "z".toText]
    (statements[6]? = some "z".toText ∧ Mark.of "z".toText = .plain
        ∧ statements[4]? = some "<if_b exists>".toText ∧ Mark.of "<if_b exists>".toText ≠ .closing
        ∧ statements[5]? = some "<if_c exists>".toText ∧ Mark.of "<if_c exists>".toText ≠ .closing)
      ∧ Forest.count (ofStatements statements) = 6
      ∧ Owns statements 5 6 ∧ ¬ Owns statements 4 6 ∧ ¬ IsRootAt statements 6 := by
  intro statements
  have hz : Mark.of "z".toText = .plain := by decide
  have hc : Mark.of "<if_c exists>".toText = .opening := by decide
  have hlast : IsLastMarker statements 5 6 :=
    ⟨by decide, ⟨_, rfl, by decide⟩, fun k s hlt hk => by omega⟩
  obtain ⟨-, hcount, -, hposition⟩ := shape_ofStatements statements
  obtain ⟨-, -, hplain⟩ := hposition 6 "z".toText rfl
  obtain ⟨howns, hroot⟩ := hplain hz
  refine ⟨⟨rfl, hz, rfl, by decide, rfl, by decide⟩, hcount.trans (by decide), ?_, ?_, ?_⟩
  · exact (howns 5 _ rfl (by decide)).mpr ⟨hlast, hc⟩
  · intro h
    have hfour := ((howns 4 _ rfl (by decide)).mp h).1
    exact absurd (hfour.unique hlast) (by decide)
  · exact fun h => hroot.mp h ⟨5, _, rfl, hc, hlast⟩

end Forest

end ScenarioScript
