import ScenarioScript.Proofs.Forest.Origins

/-!
# Emission at different depths

The depth at which a forest is laid out shows only in front of its lines.  One step further in, the
indent is put in front of every line that is not empty; a line that is empty at one depth is empty
at all of them, because only the text behind the indent decides.  To the left of depth zero nothing
is left to take away, so that a root keeps its lines there, while what it owns still moves.

* `deepen` — one step further in, for a line that is there already.
* `Origin.line_succ` and `Origin.line_of_neg` — **the line of an origin** at a neighbouring depth.
* `Forest.emit_at_depths` — the emissions of a forest compared.
-/

namespace ScenarioScript

/-- **One step further in.**  Empty lines stay empty. -/
def deepen (indent line : Text) : Text :=
  if line = [] then [] else indent ++ line

section Margin

variable (indent : Text) {depth : Int}

lemma margin_succ (h : 0 ≤ depth) :
    Stream.margin indent (depth + 1) = indent ++ Stream.margin indent depth := by
  have hcount : (max (depth + 1) 0).toNat = (max depth 0).toNat + 1 := by omega
  rw [Stream.margin, Stream.margin, hcount, List.replicate_succ, List.flatten_cons]

lemma margin_of_nonpos (h : depth ≤ 0) : Stream.margin indent depth = [] := by
  have hcount : (max depth 0).toNat = 0 := by omega
  rw [Stream.margin, hcount, List.replicate_zero, List.flatten_nil]

/-- What is not empty stays so behind any margin, and moves in by one indent. -/
lemma deepen_margin_append (h : 0 ≤ depth) {text : Text} (htext : text ≠ []) :
    deepen indent (Stream.margin indent depth ++ text)
      = Stream.margin indent (depth + 1) ++ text := by
  rw [deepen, if_neg (by simp [htext]), margin_succ indent h, List.append_assoc]

end Margin

namespace Origin

variable (indent : Text) {depth : Int} (origin : Origin)

/-- **The line of an origin one step further in.** -/
lemma line_succ (h : 0 ≤ depth) :
    origin.line indent (depth + 1) = deepen indent (origin.line indent depth) := by
  have hlevel : depth + 1 + origin.level = depth + origin.level + 1 := by omega
  have hdepth : 0 ≤ depth + origin.level := by omega
  rw [line, line, hlevel]
  split
  · rw [deepen_margin_append indent hdepth (by simp)]
  · split
    · simp only [Stream.blockLine, List.append_assoc]
      rw [deepen_margin_append indent hdepth (by simp)]
    · rw [Stream.plainLine, Stream.plainLine]
      split
      · rw [deepen, if_pos rfl]
      · rw [deepen_margin_append indent hdepth ‹_›]

/-- **A root has no margin** to the left of depth zero, and none at zero. -/
lemma line_of_neg (hroot : origin.level = 0) (h : depth < 0) :
    origin.line indent depth = origin.line indent 0 := by
  have hmargin : Stream.margin indent depth = Stream.margin indent 0 := by
    rw [margin_of_nonpos indent (by omega), margin_of_nonpos indent (by omega)]
  rw [line, line, hroot]
  simp only [Int.natCast_zero, Int.add_zero, Stream.blockLine, Stream.plainLine, hmargin]

end Origin

/-- **Emissions at different depths.**  One step further in, the indent stands in front of every
    line that is not empty, and the reports are the same.  To the left of depth zero the lines of
    the roots are those at zero. -/
theorem Forest.emit_at_depths (indent : Text) (forest : Forest) :
    (∀ depth : Int, 0 ≤ depth → (Forest.emit indent (depth + 1) forest).lines
        = (Forest.emit indent depth forest).lines.map (deepen indent))
      ∧ (∀ depth : Int, (Forest.emit indent (depth + 1) forest).unresolved
        = (Forest.emit indent depth forest).unresolved)
      ∧ ∀ depth : Int, depth < 0 → ∀ (position : Nat) (origin : Origin),
        (Forest.origins forest)[position]? = some origin → origin.level = 0 →
          (Forest.emit indent depth forest).lines[position]?
            = (Forest.emit indent 0 forest).lines[position]? := by
  refine ⟨fun depth h => ?_, fun depth => ?_, fun depth h position origin hposition hroot => ?_⟩
  · rw [Forest.lines_emit_origins, Forest.lines_emit_origins, List.map_map]
    exact List.map_congr_left fun origin _ => origin.line_succ indent h
  · rw [Forest.unresolved_emit, Forest.unresolved_emit]
  · rw [Forest.lines_emit_origins, Forest.lines_emit_origins, List.getElem?_map,
      List.getElem?_map, hposition, Option.map_some, Option.map_some,
      origin.line_of_neg indent hroot h]

/-- The case of a block with an empty line in it.  At depth minus one its two own lines are those at
    zero, but the line inside it has moved. -/
theorem Forest.emit_at_depths_block :
    let root : Node := ⟨"a".toText, true, [Node.leaf "<end>".toText, Node.leaf "b".toText]⟩
    let lines (depth : Int) := (Forest.emit "\t".toText depth [root]).lines
    ((0 : Int) ≤ 1 ∧ (-1 : Int) < 0
        ∧ (Forest.origins [root])[3]? = some ⟨[0], root, true⟩
        ∧ Origin.level ⟨[0], root, true⟩ = 0)
      ∧ lines (1 + 1) = (lines 1).map (deepen "\t".toText)
      ∧ lines 1 = ["\tif (a) \x7b".toText, [], "\t\tb".toText, "\t\x7d".toText]
      ∧ (lines (-1))[3]? = (lines 0)[3]? ∧ (lines (-1))[2]? ≠ (lines 0)[2]? := by
  intro root lines
  obtain ⟨hdeeper, -, hroots⟩ := Forest.emit_at_depths "\t".toText [root]
  have horigin : (Forest.origins [root])[3]? = some ⟨[0], root, true⟩ := by
    simp [Forest.origins, Forest.originsFrom, Node.origins, root, Node.leaf, Node.ending,
      Node.isBlock]
  exact ⟨⟨by decide, by decide, horigin, rfl⟩, hdeeper 1 (by decide), by decide,
    hroots (-1) (by decide) 3 _ horigin rfl, by decide⟩

end ScenarioScript
