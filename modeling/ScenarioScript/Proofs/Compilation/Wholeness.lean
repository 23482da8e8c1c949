import ScenarioScript.Proofs.Compilation.Accounts
import ScenarioScript.Proofs.Forest.Origins
import ScenarioScript.Proofs.Placeholder.Phrases
import ScenarioScript.Proofs.Statement.Scan
import ScenarioScript.Proofs.Suggestion.Nearest

/-!
# Where the halves of a script come from

Half of a surrogate pair cannot be encoded, so that it matters where such letters come from.  They
come from the scenario: nothing that is put around its texts has any.

* `Text.IsWhole` — a text without halves.
* `Phrase.isWhole_of_captures?`, `Shape.isWhole_argument` — **parts of a whole text are whole.**
* `isWhole_resolve`, `Forest.isWhole_emit` — a statement and a forest.
* `Scenario.isWhole_script`, `Scenario.isWhole_message` — **whatever is said about a whole scenario
  is whole**, be it compiled or refused.
-/

namespace ScenarioScript

@[simp] lemma Letter.isHalf_char (c : Char) : (char c).isHalf = false :=
  rfl

/-- **A whole text** has no half of a surrogate pair in it. -/
def Text.IsWhole (text : Text) : Prop :=
  ∀ letter ∈ text, letter.isHalf = false

namespace Text

instance (text : Text) : Decidable text.IsWhole :=
  inferInstanceAs (Decidable (∀ letter ∈ text, letter.isHalf = false))

variable {text other : Text} {letter : Letter}

@[simp] lemma isWhole_nil : IsWhole [] := by
  simp [IsWhole]

@[simp] lemma isWhole_cons : IsWhole (letter :: text) ↔ letter.isHalf = false ∧ text.IsWhole :=
  List.forall_mem_cons

@[simp] lemma isWhole_append : IsWhole (text ++ other) ↔ text.IsWhole ∧ other.IsWhole :=
  List.forall_mem_append

@[simp] lemma isWhole_ofChars (chars : List Char) : (ofChars chars).IsWhole := by
  simp [IsWhole, ofChars]

@[simp] lemma isWhole_toText (string : String) : string.toText.IsWhole :=
  isWhole_ofChars string.toList

/-- A whole text is a text of characters. -/
lemma IsWhole.exists_ofChars (h : text.IsWhole) : ∃ chars, text = ofChars chars := by
  induction text with
  | nil => exact ⟨[], rfl⟩
  | cons letter text ih =>
      obtain ⟨hletter, htext⟩ := isWhole_cons.mp h
      obtain ⟨chars, rfl⟩ := ih htext
      cases letter with
      | half index => exact absurd hletter (by simp [Letter.isHalf])
      | char c => exact ⟨c :: chars, rfl⟩

/-- Parts of a whole text are whole. -/
lemma IsWhole.mono (h : text.IsWhole) (hsubset : other ⊆ text) : other.IsWhole := by
  intro letter hletter
  exact h letter (hsubset hletter)

lemma isWhole_flatMap {α : Type} {f : α → Text} {items : List α} :
    IsWhole (items.flatMap f) ↔ ∀ item ∈ items, (f item).IsWhole :=
  List.forall_mem_flatMap

lemma isWhole_unlines {lines : List Text} (h : ∀ line ∈ lines, line.IsWhole) :
    (unlines lines).IsWhole := by
  rw [unlines, isWhole_flatMap]
  intro line hline
  simp [h line hline]

lemma isWhole_times (h : text.IsWhole) (count : Int) : (times text count).IsWhole := by
  rw [times, ← List.flatMap_id, isWhole_flatMap]
  intro part hpart
  rwa [List.eq_of_mem_replicate hpart]

end Text

/-! ## Snippets -/

lemma Literal.isWhole_write {value : Text} (h : value.IsWhole) : (write value).IsWhole := by
  have hbody : (body value).IsWhole := by
    rw [body, Text.isWhole_flatMap]
    intro letter hletter
    rw [escape]
    split <;> simp [h letter hletter]
  simp [write, hbody]

/-- The fixed texts of a piece are whole. -/
def Piece.IsWhole : Piece → Prop
  | .code text => text.IsWhole
  | .literal (.fixed text) => text.IsWhole
  | .literal (.value before _ after) => before.IsWhole ∧ after.IsWhole

instance : (piece : Piece) → Decidable piece.IsWhole
  | .code text => inferInstanceAs (Decidable text.IsWhole)
  | .literal (.fixed text) => inferInstanceAs (Decidable text.IsWhole)
  | .literal (.value before _ after) =>
    inferInstanceAs (Decidable (before.IsWhole ∧ after.IsWhole))

lemma Piece.isWhole_render {piece : Piece} {values : List Text} (h : piece.IsWhole)
    (hvalues : ∀ value ∈ values, value.IsWhole) : (piece.render values).IsWhole := by
  cases piece with
  | code text => exact h
  | literal wording =>
      apply Literal.isWhole_write
      cases wording with
      | fixed text => exact h
      | value before index after =>
          have hvalue : (values.getD index []).IsWhole := by
            rw [List.getD_eq_getElem?_getD]
            cases hget : values[index]? with
            | none => exact Text.isWhole_nil
            | some value => exact hvalues value (List.mem_of_getElem? hget)
          rw [Wording.fill, Text.isWhole_append, Text.isWhole_append]
          exact ⟨⟨h.1, hvalue⟩, h.2⟩

lemma Snippet.isWhole_render {snippet : Snippet} {values : List Text}
    (h : ∀ piece ∈ snippet, piece.IsWhole) (hvalues : ∀ value ∈ values, value.IsWhole) :
    (snippet.render values).IsWhole := by
  rw [Snippet.render, Text.isWhole_flatMap]
  intro piece hpiece
  exact Piece.isWhole_render (h piece hpiece) hvalues

/-- **The code of the registry is whole.** -/
lemma isWhole_code (tag : Tag) : ∀ form ∈ (Family.ofTag tag).forms,
    ∀ piece ∈ form.code, piece.IsWhole := by
  cases tag <;> decide

lemma isWhole_templates (tag : Tag) :
    ∀ template ∈ (Family.ofTag tag).templates, template.IsWhole := by
  cases tag <;> decide

/-! ## Parts of a statement -/

/-- **What slots take is whole** if the argument is. -/
lemma Phrase.isWhole_of_captures? {phrase : Phrase} {argument : Text} {values : List Text}
    (h : phrase.captures? argument = some values) (hargument : argument.IsWhole) :
    ∀ value ∈ values, value.IsWhole := by
  obtain ⟨hwrite, hlength, -⟩ := write?_of_captures? h
  obtain ⟨rest, hslots, rfl⟩ := Option.map_eq_some_iff.mp hwrite
  have hrest : rest.IsWhole := (Text.isWhole_append.mp hargument).2
  clear h hwrite hargument
  generalize phrase.slots = slots at hslots hlength
  induction slots generalizing values rest with
  | nil =>
      obtain rfl := List.length_eq_zero_iff.mp hlength
      simp
  | cons slot slots ih =>
      cases values with
      | nil => simp at hlength
      | cons value values =>
          obtain ⟨behind, hbehind, rfl⟩ := Option.map_eq_some_iff.mp hslots
          rw [Text.isWhole_append, Text.isWhole_append] at hrest
          rw [List.forall_mem_cons]
          exact ⟨hrest.1.1, ih behind hrest.2 hbehind (by simpa using hlength)⟩

/-- **The argument of an occurrence is whole** if the text is. -/
lemma Shape.isWhole_argument {shape : Shape} {text : Text} {o : Occurrence}
    (h : o ∈ shape.occurrences text) (htext : text.IsWhole) : o.argument.IsWhole := by
  have hcandidate := mem_candidates_of_mem_occurrences h
  cases shape with
  | leading lead =>
      obtain ⟨close, -, -, hargument⟩ := mem_candidates_leading_iff.mp hcandidate
      rw [hargument]
      exact htext.mono fun _ hletter => List.take_subset _ _ (List.drop_subset _ _ hletter)
  | exactly word =>
      obtain ⟨rest, hafter, hargument⟩ :=
        Option.map_eq_some_iff.mp (mem_candidates_iff.mp hcandidate).1
      have hsplit := Text.after?_eq_some_iff.mp hafter
      have hdrop : Text.IsWhole (text.drop o.start) := htext.mono (List.drop_subset _ _)
      rw [hsplit] at hdrop
      rw [← hargument]
      exact hdrop.mono (by simp)

/-! ## Statements -/

/-- **A replacement in a whole statement is whole.** -/
lemma Scan.isWhole_code {statement : Text} {splice : Splice} (hstatement : statement.IsWhole)
    (h : splice ∈ (run registry statement).splices) : splice.code.IsWhole := by
  obtain ⟨⟨family, o⟩, hvisit, hsplice⟩ := mem_splices_run h
  obtain ⟨hfamily, ho⟩ := mem_visits_iff.mp hvisit
  obtain ⟨code, hcode, rfl⟩ := Option.map_eq_some_iff.mp hsplice
  obtain ⟨form, hform, hrender⟩ := Option.bind_eq_some_iff.mp hcode
  obtain ⟨values, hvalues, rfl⟩ := Option.map_eq_some_iff.mp hrender
  obtain ⟨tag, -, rfl⟩ := List.mem_map.mp hfamily
  refine Snippet.isWhole_render ?_ ?_
  · exact ScenarioScript.isWhole_code tag form (List.mem_of_find?_eq_some hform)
  · exact Phrase.isWhole_of_captures? hvalues (Shape.isWhole_argument ho hstatement)

lemma Scan.isWhole_assemble {splices : List Splice} {rest : Text}
    (h : ∀ splice ∈ splices, splice.code.IsWhole) (hrest : rest.IsWhole) (position : Nat) :
    (assemble position rest splices).IsWhole := by
  induction splices generalizing position rest with
  | nil => exact hrest
  | cons splice splices ih =>
      rw [List.forall_mem_cons] at h
      have hfront := hrest.mono (List.take_subset (splice.start - position) rest)
      have hbehind := hrest.mono (List.drop_subset (splice.stop - position) rest)
      simp [assemble, hfront, h.1, ih h.2 hbehind]

/-- **A whole statement is resolved to a whole one.** -/
lemma isWhole_resolve {statement : Text} (h : statement.IsWhole) :
    (resolve statement).text.IsWhole :=
  Scan.isWhole_assemble (fun _ hsplice => Scan.isWhole_code h hsplice) h 0

lemma isWhole_indentLine {indent line : Text} (hindent : indent.IsWhole) (h : line.IsWhole)
    (depth : Int) : (indentLine indent depth line).IsWhole := by
  rw [indentLine]
  split
  · exact Text.isWhole_nil
  · exact Text.isWhole_append.mpr ⟨Text.isWhole_times hindent depth, h⟩

/-- **The lines of a forest are whole** if its statements are, at any depth. -/
lemma Forest.isWhole_emit {indent : Text} (hindent : indent.IsWhole) (forest : Forest) :
    ∀ depth : Int, (∀ statement ∈ Forest.traverse forest, statement.IsWhole) →
      ∀ line ∈ (Forest.emit indent depth forest).lines, line.IsWhole := by
  induction forest using Forest.induction with
  | nil => simp [Forest.emit]
  | cons node forest ihchildren ihforest =>
      intro depth h
      obtain ⟨statement, conditional, children⟩ := node
      rw [Forest.traverse, Node.traverse, List.forall_mem_append, List.forall_mem_cons] at h
      obtain ⟨⟨hstatement, hchildren⟩, hforest⟩ := h
      have hown := isWhole_resolve hstatement
      rw [Forest.emit, Emission.append, List.forall_mem_append]
      refine ⟨?_, ihforest depth hforest⟩
      rw [Node.emit]
      split
      · simp only [List.forall_mem_singleton]
        exact isWhole_indentLine hindent hown depth
      · dsimp only
        rw [List.forall_mem_append, List.forall_mem_cons, List.forall_mem_singleton]
        refine ⟨⟨?_, ihchildren (depth + 1) hchildren⟩, ?_⟩
        · exact isWhole_indentLine hindent (by simp [Command.ifOpen, hown]) depth
        · exact isWhole_indentLine hindent (by simp [Command.ifClose]) depth

/-! ## Scenarios -/

namespace Scenario

/-- **A whole scenario**: its texts are whole. -/
structure IsWhole (scenario : Scenario) : Prop where
  name : scenario.name.IsWhole
  statements : ∀ statement ∈ scenario.given :: scenario.actions ++ scenario.outcomes,
    statement.IsWhole

variable {scenario : Scenario} {settings : Settings} {compiled : Compiled} {fault : SyntaxFault}

lemma isWhole_forest (hindent : settings.indent.IsWhole) {statements : List Text}
    (h : ∀ statement ∈ statements, statement.IsWhole) :
    (Forest.emit settings.indent 2 (Forest.ofStatements statements)).text.IsWhole := by
  refine Text.isWhole_unlines (Forest.isWhole_emit hindent _ 2 ?_)
  rw [Forest.traverse_ofStatements]
  intro statement hstatement
  exact h statement (List.mem_of_mem_filter hstatement)

/-- **The script of a whole scenario is whole.** -/
lemma isWhole_script (h : scenario.IsWhole) (hindent : settings.indent.IsWhole)
    (hcompile : scenario.compile settings = .ok compiled) : compiled.script.IsWhole := by
  obtain ⟨hname, hstatements⟩ := h
  rw [List.cons_append, List.forall_mem_cons, List.forall_mem_append] at hstatements
  obtain ⟨hgiven, hactions, houtcomes⟩ := hstatements
  have hdescribe : ((Command.describeOpen scenario.name).render []).IsWhole :=
    Snippet.isWhole_render (by simp [Command.describeOpen, Command.code, Piece.IsWhole, hname])
      (by simp)
  have hit : ((Command.itOpen scenario.given).render []).IsWhole :=
    Snippet.isWhole_render (by simp [Command.itOpen, Command.code, Piece.IsWhole, hgiven])
      (by simp)
  have hline : ∀ {content : Text}, content.IsWhole → (line content).IsWhole := by
    intro content hcontent
    simp [line, hcontent]
  have hbody := isWhole_resolve hgiven
  rw [(compile_eq_ok_iff.mp hcompile).2.script, page]
  simp only [Text.isWhole_append]
  refine ⟨⟨⟨⟨⟨⟨⟨⟨⟨?_, hline hdescribe⟩, hline ?_⟩, hline ?_⟩, hline Text.isWhole_nil⟩,
    isWhole_forest hindent hactions⟩, hline Text.isWhole_nil⟩, isWhole_forest hindent houtcomes⟩,
    hline ?_⟩, hline ?_⟩
  · split
    · exact hline (Text.isWhole_toText _)
    · exact Text.isWhole_nil
  · simp [hindent, hit]
  · split
    · exact Text.isWhole_nil
    · simp [hindent, hbody]
  · simp [hindent, Command.callbackClose]
  · simp [Command.callbackClose]

/-- **So is the message about one that is refused.** -/
lemma isWhole_message (h : scenario.IsWhole)
    (hcompile : scenario.compile settings = .error fault) : fault.message.IsWhole := by
  obtain ⟨before, statement, after, hsplit, -, hhead⟩ := compile_eq_error_iff.mp hcompile
  obtain ⟨token, -, rfl⟩ := List.mem_map.mp (List.mem_of_mem_head? hhead)
  have hstatement : statement.IsWhole := h.statements statement (by simp [hsplit])
  rw [SyntaxFault.message]
  cases hclosest : settings.suggester.closest? statement with
  | none => simp [hstatement]
  | some suggestion =>
      have hmem := (Suggester.closest?_eq_some_iff.mp hclosest).1.mem
      obtain ⟨family, hfamily, htemplate⟩ := List.mem_flatMap.mp hmem
      obtain ⟨tag, -, rfl⟩ := List.mem_map.mp hfamily
      simp [hstatement, isWhole_templates tag _ htemplate]

end Scenario

end ScenarioScript
