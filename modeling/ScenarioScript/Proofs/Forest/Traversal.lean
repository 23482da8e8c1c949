import Mathlib.Tactic.Lemma
import ScenarioScript.Forest.Emission

/-!
# The statements of a forest

`Forest.traverse` lists the statements of a forest from left to right, a guard in front of what it
owns.  The number of nodes and the reports of an emission depend on this list only, and for a forest
made from statements it is those statements, less the closing markers.

So **grouping and layout neither lose, repeat nor reorder** a statement:

* `Forest.count_eq_length_traverse` and `Forest.unresolved_emit`, for any forest.
* `Forest.traverse_ofStatements`, for the forest of a list of statements.

Statements are grouped from left to right, with one guard open at a time.  Proofs about the forest
go by induction on the list, for which grouping from the right (`Forest.gather`) is the better form:
it says what a guard in front of the list would own.  `Forest.ofStatements_eq_gather` proves the two
equal.
-/

namespace ScenarioScript

mutual

def Node.traverse : Node → List Text
  | ⟨statement, _, children⟩ => statement :: Forest.traverse children

/-- **The statements of a forest**, from left to right. -/
def Forest.traverse : Forest → List Text
  | [] => []
  | node :: forest => node.traverse ++ Forest.traverse forest

end

/-- The statements that leave a trace in the script. -/
def kept (statements : List Text) : List Text :=
  statements.filter fun statement => Mark.of statement ≠ .closing

lemma kept_cons_closing {statement : Text} {rest : List Text} (h : Mark.of statement = .closing) :
    kept (statement :: rest) = kept rest := by
  simp [kept, h]

lemma kept_cons_of_ne {statement : Text} {rest : List Text} (h : Mark.of statement ≠ .closing) :
    kept (statement :: rest) = statement :: kept rest := by
  simp [kept, h]

/-! ## Any forest -/

mutual

lemma Node.count_eq_length_traverse : ∀ node : Node, node.count = node.traverse.length
  | ⟨statement, _, children⟩ => by
      rw [Node.count, Node.traverse, List.length_cons, Forest.count_eq_length_traverse children]
      omega

/-- **A forest has as many nodes as statements.** -/
lemma Forest.count_eq_length_traverse : ∀ forest : Forest,
    Forest.count forest = (Forest.traverse forest).length
  | [] => by rw [Forest.count, Forest.traverse, List.length_nil]
  | node :: forest => by
      rw [Forest.count, Forest.traverse, List.length_append, Node.count_eq_length_traverse node,
        Forest.count_eq_length_traverse forest]

end

mutual

lemma Node.unresolved_emit (indent : Text) : ∀ (depth : Int) (node : Node),
    (node.emit indent depth).unresolved
      = node.traverse.flatMap fun statement => (resolve statement).unresolved
  | depth, ⟨statement, _, children⟩ => by
      have hbody := Forest.unresolved_emit indent (depth + 1) children
      rw [Node.emit, Node.traverse, List.flatMap_cons]
      cases children with
      | nil =>
          rw [if_pos List.isEmpty_nil, Forest.traverse]
          simp
      | cons child children =>
          rw [if_neg (by simp), ← hbody]

/-- **The reports of an emission** are those of its statements, at any depth. -/
lemma Forest.unresolved_emit (indent : Text) : ∀ (depth : Int) (forest : Forest),
    (Forest.emit indent depth forest).unresolved
      = (Forest.traverse forest).flatMap fun statement => (resolve statement).unresolved
  | _, [] => by rw [Forest.emit, Forest.traverse]; rfl
  | depth, node :: forest => by
      rw [Forest.emit, Forest.traverse, List.flatMap_append,
        ← Node.unresolved_emit indent depth node, ← Forest.unresolved_emit indent depth forest]
      rfl

end

/-! ## The forest of a list of statements -/

/-- **Grouping from the right.** The plain statements at the head of the list are kept apart,
    because a guard in front of them would own them; the second component is the forest of all that
    comes after them. -/
def Forest.gather : List Text → List Text × Forest
  | [] => ([], [])
  | statement :: rest =>
    let (body, forest) := gather rest
    match Mark.of statement with
    | .plain => (statement :: body, forest)
    | .opening => ([], Node.guarded statement body :: forest)
    | .closing => ([], body.map Node.leaf ++ forest)

@[simp] lemma Forest.Grouping.roots_none (closed : Forest) :
    (⟨closed, none⟩ : Grouping).roots = closed :=
  List.append_nil closed

@[simp] lemma Forest.Grouping.roots_some (closed : Forest) (guard : Node) :
    (⟨closed, some guard⟩ : Grouping).roots = closed ++ [guard] :=
  rfl

/-- What the statements still to be read add to the roots: without an open guard, and with one that
    owns `owned` already. -/
lemma Forest.roots_foldl_read (statements : List Text) : ∀ closed : Forest,
    (statements.foldl Grouping.read ⟨closed, none⟩).roots
        = closed ++ ((gather statements).1.map Node.leaf ++ (gather statements).2)
      ∧ ∀ (guard : Text) (owned : List Text),
        (statements.foldl Grouping.read ⟨closed, some (Node.guarded guard owned)⟩).roots
          = closed ++ Node.guarded guard (owned ++ (gather statements).1)
              :: (gather statements).2 := by
  induction statements with
  | nil =>
      intro closed
      simp [gather]
  | cons statement rest ih =>
      intro closed
      rw [gather]
      cases hmark : Mark.of statement with
      | closing =>
          refine ⟨?_, fun guard owned => ?_⟩
          · simp [Grouping.read, hmark, (ih closed).1]
          · simp [Grouping.read, hmark,
              (ih (closed ++ [Node.guarded guard owned])).1]
      | opening =>
          refine ⟨?_, fun guard owned => ?_⟩
          · simp [Grouping.read, hmark, (ih closed).2]
          · simp [Grouping.read, hmark,
              (ih (closed ++ [Node.guarded guard owned])).2]
      | plain =>
          refine ⟨?_, fun guard owned => ?_⟩
          · simp [Grouping.read, hmark, (ih (closed ++ [Node.leaf statement])).1]
          · -- the statement becomes the last of those that the guard owns
            have hstep : Grouping.read ⟨closed, some (Node.guarded guard owned)⟩ statement
                = ⟨closed, some (Node.guarded guard (owned ++ [statement]))⟩ := by
              simp [Grouping.read, Node.guarded, hmark]
            simp [hstep, (ih closed).2]

/-- **Reading from the left and grouping from the right** make the same forest. -/
theorem Forest.ofStatements_eq_gather (statements : List Text) :
    ofStatements statements
      = (gather statements).1.map Node.leaf ++ (gather statements).2 := by
  rw [ofStatements, (roots_foldl_read statements []).1, List.nil_append]

lemma Forest.traverse_append (first second : Forest) :
    Forest.traverse (first ++ second) = Forest.traverse first ++ Forest.traverse second := by
  induction first with
  | nil => rw [Forest.traverse]; rfl
  | cons node first ih => rw [List.cons_append, Forest.traverse, Forest.traverse, ih,
      List.append_assoc]

lemma Forest.traverse_map_leaf (statements : List Text) :
    Forest.traverse (statements.map Node.leaf) = statements := by
  induction statements with
  | nil => rw [List.map_nil, Forest.traverse]
  | cons statement rest ih =>
      rw [List.map_cons, Forest.traverse, ih, Node.leaf, Node.traverse, Forest.traverse]
      rfl

/-- The statements set apart and those of the forest behind them are all that are kept. -/
lemma Forest.traverse_gather (statements : List Text) :
    (gather statements).1 ++ Forest.traverse (gather statements).2 = kept statements := by
  induction statements with
  | nil => rw [gather, Forest.traverse]; rfl
  | cons statement rest ih =>
      rw [gather]
      cases hmark : Mark.of statement with
      | plain =>
          rw [kept_cons_of_ne (by simp [hmark]), ← ih]
          rfl
      | opening =>
          rw [kept_cons_of_ne (by simp [hmark]), ← ih]
          simp only [Forest.traverse, Node.guarded, Node.traverse, traverse_map_leaf,
            List.nil_append, List.cons_append]
      | closing =>
          rw [kept_cons_closing hmark, ← ih]
          simp only [traverse_append, traverse_map_leaf, List.nil_append]

/-- **Grouping keeps every statement but the closing markers**, in order. -/
theorem Forest.traverse_ofStatements (statements : List Text) :
    Forest.traverse (ofStatements statements) = kept statements := by
  rw [ofStatements_eq_gather, traverse_append, traverse_map_leaf, traverse_gather]

end ScenarioScript
