import ScenarioScript.Proofs.Forest.Traversal

/-!
# Translating statements without a forest

The lines of a list of statements can be written from left to right.  All that has to be remembered
is whether a block is open, and all that has to be known in advance is the next statement, because a
guard opens a block only if there is something to put into it.

* `Stream.step` — one statement: its lines, and whether a block is open behind it.
* `Stream.run` — the whole list.
* `Stream.run_eq_gather` — **what the rest of a run writes**: the plain statements at its head,
  inside the open block if there is one, the end of that block, and the forest of what follows.
* `Forest.emit_ofStatements_eq_run` — grouping and then walking the forest writes the same lines,
  and reports what the kept statements report.
-/

namespace ScenarioScript

/-! ## The translator -/

namespace Stream

/-- The blanks in front of a line: the indent as often as the depth says, and not at all at a
    negative depth. -/
def margin (indent : Text) (depth : Int) : Text :=
  (List.replicate (max depth 0).toNat indent).flatten

/-- A statement on a line of its own.  If it resolves to nothing, so does the line. -/
def plainLine (indent : Text) (depth : Int) (statement : Text) : Text :=
  if (resolve statement).text = [] then [] else margin indent depth ++ (resolve statement).text

/-- A guard in front of its block. -/
def blockLine (indent : Text) (depth : Int) (statement : Text) : Text :=
  margin indent depth ++ "if (".toText ++ (resolve statement).text ++ ") \x7b".toText

/-- What ends the open block, if there is one. -/
def ending (indent : Text) (depth : Int) (isOpen : Bool) : List Text :=
  if isOpen then [margin indent depth ++ [char '\x7d']] else []

/-- **One statement**, with the one behind it. -/
def step (indent : Text) (depth : Int) (isOpen : Bool) (statement : Text) (next : Option Text) :
    List Text × Bool :=
  match Mark.of statement with
  | .closing => (ending indent depth isOpen, false)
  | .opening =>
    if next.any (Mark.of · = .plain) then
      (ending indent depth isOpen ++ [blockLine indent depth statement], true)
    else (ending indent depth isOpen ++ [plainLine indent depth statement], false)
  | .plain => ([plainLine indent (if isOpen then depth + 1 else depth) statement], isOpen)

/-- **A list of statements**, from left to right. -/
def run (indent : Text) (depth : Int) : (isOpen : Bool) → List Text → List Text
  | isOpen, [] => ending indent depth isOpen
  | isOpen, statement :: rest =>
    let (lines, isOpen') := step indent depth isOpen statement rest.head?
    lines ++ run indent depth isOpen' rest

end Stream

/-! ## Lines of a forest -/

section Lines

variable (indent : Text) (depth : Int)

lemma times_eq_margin : Text.times indent depth = Stream.margin indent depth := by
  rw [Text.times, Stream.margin]
  congr 2
  omega

lemma indentLine_resolve (statement : Text) :
    indentLine indent depth (resolve statement).text
      = Stream.plainLine indent depth statement := by
  rw [indentLine, Stream.plainLine, times_eq_margin]
  simp only [List.isEmpty_iff]

lemma indentLine_ifOpen (statement : Text) :
    indentLine indent depth (Command.ifOpen (resolve statement).text)
      = Stream.blockLine indent depth statement := by
  rw [indentLine, times_eq_margin, Command.ifOpen, Stream.blockLine]
  simp

lemma indentLine_ifClose :
    indentLine indent depth Command.ifClose = Stream.margin indent depth ++ [char '\x7d'] := by
  rw [indentLine, times_eq_margin]
  rfl

lemma Forest.lines_emit_append (first second : Forest) :
    (Forest.emit indent depth (first ++ second)).lines
      = (Forest.emit indent depth first).lines ++ (Forest.emit indent depth second).lines := by
  induction first with
  | nil => rw [Forest.emit]; rfl
  | cons node first ih =>
      rw [List.cons_append, Forest.emit, Forest.emit, Emission.append, Emission.append, ih,
        List.append_assoc]

lemma Forest.lines_emit_map_leaf (statements : List Text) :
    (Forest.emit indent depth (statements.map Node.leaf)).lines
      = statements.map (Stream.plainLine indent depth) := by
  induction statements with
  | nil => rw [List.map_nil, Forest.emit]; rfl
  | cons statement rest ih =>
      rw [List.map_cons, Forest.emit, Emission.append, ih, Node.leaf, Node.emit,
        if_pos List.isEmpty_nil, indentLine_resolve]
      rfl

lemma Node.lines_emit_guarded_nil (statement : Text) :
    ((Node.guarded statement []).emit indent depth).lines
      = [Stream.plainLine indent depth statement] := by
  rw [Node.guarded, List.map_nil, Node.emit, if_pos List.isEmpty_nil, indentLine_resolve]

lemma Node.lines_emit_guarded {body : List Text} (hbody : body ≠ []) (statement : Text) :
    ((Node.guarded statement body).emit indent depth).lines
      = Stream.blockLine indent depth statement
          :: body.map (Stream.plainLine indent (depth + 1)) ++ Stream.ending indent depth true := by
  rw [← Forest.lines_emit_map_leaf, Node.guarded, Node.emit, if_neg (by simpa using hbody),
    indentLine_ifOpen, indentLine_ifClose]
  rfl

end Lines

/-! ## The two ways compared -/

/-- Looking at the next statement is enough to know whether a guard owns anything. -/
lemma Forest.gather_eq_nil_iff (statements : List Text) :
    (Forest.gather statements).1 = [] ↔ statements.head?.any (Mark.of · = .plain) = false := by
  cases statements with
  | nil => simp [Forest.gather]
  | cons statement rest =>
      rw [Forest.gather]
      cases hmark : Mark.of statement with
      | plain => simp [hmark]
      | opening => simp [hmark]
      | closing => simp [hmark]

/-- **What the rest of a run writes.** -/
lemma Stream.run_eq_gather (indent : Text) (depth : Int) (isOpen : Bool) (statements : List Text) :
    Stream.run indent depth isOpen statements
      = (Forest.gather statements).1.map
            (Stream.plainLine indent (if isOpen then depth + 1 else depth))
          ++ Stream.ending indent depth isOpen
          ++ (Forest.emit indent depth (Forest.gather statements).2).lines := by
  induction statements generalizing isOpen with
  | nil => simp [Stream.run, Forest.gather, Forest.emit]
  | cons statement rest ih =>
      rw [Stream.run, Stream.step, Forest.gather]
      cases hmark : Mark.of statement with
      | plain => simp [ih]
      | closing =>
          -- what was set apart leaves the block and becomes part of the forest
          simp [ih, Stream.ending, Forest.lines_emit_append, Forest.lines_emit_map_leaf]
      | opening =>
          simp only [Forest.emit, Emission.append]
          by_cases hbody : (Forest.gather rest).1 = []
          · have hnext := (Forest.gather_eq_nil_iff rest).mp hbody
            rw [hnext, if_neg Bool.false_ne_true, hbody, Node.lines_emit_guarded_nil]
            simp [ih, hbody, Stream.ending]
          · have hnext : rest.head?.any (Mark.of · = .plain) = true := by
              rw [← Bool.not_eq_false, ← Forest.gather_eq_nil_iff]
              exact hbody
            rw [hnext, if_pos rfl, Node.lines_emit_guarded indent depth hbody]
            simp [ih]

/-- **Grouping statements and walking the forest is translating them one by one**, at every depth
    and with every indent.  What is reported comes from the statements that are no closing markers,
    in their order. -/
theorem Forest.emit_ofStatements_eq_run (indent : Text) (depth : Int) (statements : List Text) :
    (Forest.emit indent depth (Forest.ofStatements statements)).lines
        = Stream.run indent depth false statements
      ∧ (Forest.emit indent depth (Forest.ofStatements statements)).unresolved
        = (kept statements).flatMap fun statement => (resolve statement).unresolved := by
  constructor
  · rw [Stream.run_eq_gather, Forest.ofStatements_eq_gather, Forest.lines_emit_append,
      Forest.lines_emit_map_leaf]
    simp [Stream.ending]
  · rw [Forest.unresolved_emit, Forest.traverse_ofStatements]

end ScenarioScript
