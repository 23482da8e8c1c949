import ScenarioScript.Proofs.Compilation.Accounts
import ScenarioScript.Proofs.Statement.Faults

/-!
# What the settings can change

Settings decide how a script is laid out and what is suggested for a faulty statement, and nothing
else.  To say so, a script is taken apart into **rows**: a row is a line of text and the number of
times that the indent stands in front of it.  The rows of a scenario are found without knowing the
settings.

* `Row.split` — the rows of a text, one for each of its lines.
* `Forest.outline` and `Scenario.outline` — the rows of a forest and of a scenario.
* `Scenario.page_eq_outline` — **a script is its rows**, behind the line that names the types.
* `SameContent` — two results differ in layout and suggestion only.
* `compile_same_content` — so do the results of any value under any two settings.
-/

namespace ScenarioScript

/-! ## Rows -/

/-- **A row**: one line of text at some depth. -/
structure Row where
  depth : Nat
  text : Text
  single : char '\n' ∉ text

namespace Row

/-- A row under a given indent, ended by a line feed. -/
def write (indent : Text) (row : Row) : Text :=
  (List.replicate row.depth indent).flatten ++ row.text ++ [char '\n']

/-- **The rows of a text** that stands at some depth.  Only its first line is indented; `line` is
    what has been read of the line at hand. -/
def split (depth : Nat) (line : Text) (single : char '\n' ∉ line) : Text → List Row
  | [] => [⟨depth, line, single⟩]
  | c :: rest =>
    if h : c = char '\n' then ⟨depth, line, single⟩ :: split 0 [] List.not_mem_nil rest
    else split depth (line ++ [c]) (by simp [single, Ne.symm h]) rest

/-- The rows of a text, as far as nothing of it has been read. -/
def ofText (depth : Nat) (text : Text) : List Row :=
  split depth [] List.not_mem_nil text

/-- The rows of an indented text; an empty one is not indented. -/
def indented (depth : Nat) (text : Text) : List Row :=
  if text = [] then ofText 0 [] else ofText depth text

end Row

/-- **Rows under an indent.** -/
def writeRows (indent : Text) (rows : List Row) : Text :=
  rows.flatMap (Row.write indent)

mutual

def Node.outline : (depth : Nat) → Node → List Row
  | depth, ⟨statement, _, children⟩ =>
    if children.isEmpty then Row.indented depth (resolve statement).text
    else
      Row.indented depth (Command.ifOpen (resolve statement).text)
        ++ Forest.outline (depth + 1) children ++ Row.indented depth Command.ifClose

/-- **The rows of a forest.** -/
def Forest.outline : (depth : Nat) → Forest → List Row
  | _, [] => []
  | depth, node :: forest => node.outline depth ++ Forest.outline depth forest

end

/-- **The rows of a scenario.** -/
def Scenario.outline (scenario : Scenario) : List Row :=
  Row.ofText 0 ((Command.describeOpen scenario.name).render [])
    ++ Row.ofText 1 ((Command.itOpen scenario.given).render [])
    ++ Row.indented 2 (resolve scenario.given).text
    ++ Row.ofText 0 []
    ++ Forest.outline 2 (Forest.ofStatements scenario.actions)
    ++ Row.ofText 0 []
    ++ Forest.outline 2 (Forest.ofStatements scenario.outcomes)
    ++ Row.ofText 1 Command.callbackClose
    ++ Row.ofText 0 Command.callbackClose

/-! ## Scripts are rows -/

section Write

variable (indent : Text)

lemma writeRows_append (first second : List Row) :
    writeRows indent (first ++ second) = writeRows indent first ++ writeRows indent second :=
  List.flatMap_append

lemma writeRows_split (depth : Nat) (line : Text) (single : char '\n' ∉ line) (text : Text) :
    writeRows indent (Row.split depth line single text)
      = Scenario.line ((List.replicate depth indent).flatten ++ line ++ text) := by
  induction text generalizing depth line with
  | nil => simp [Row.split, writeRows, Row.write, Scenario.line]
  | cons c rest ih =>
      rw [Row.split]
      by_cases h : c = char '\n'
      · -- the line ends here, and what follows it is not indented
        subst h
        rw [dif_pos rfl, writeRows, List.flatMap_cons, ← writeRows, ih]
        simp [Row.write, Scenario.line]
      · rw [dif_neg h, ih]
        simp [Scenario.line]

lemma writeRows_ofText (depth : Nat) (text : Text) :
    writeRows indent (Row.ofText depth text)
      = Scenario.line ((List.replicate depth indent).flatten ++ text) := by
  rw [Row.ofText, writeRows_split, List.append_nil]

lemma writeRows_indented (depth : Nat) (text : Text) :
    writeRows indent (Row.indented depth text)
      = Scenario.line (indentLine indent depth text) := by
  rw [Row.indented, indentLine, Text.times, Int.toNat_natCast]
  by_cases h : text = []
  · rw [if_pos h, if_pos (by simpa using h), writeRows_ofText]
    rfl
  · rw [if_neg h, if_neg (by simpa using h), writeRows_ofText]

mutual

lemma Node.unlines_emit : ∀ (depth : Nat) (node : Node),
    Text.unlines (node.emit indent depth).lines = writeRows indent (node.outline depth)
  | depth, ⟨statement, _, children⟩ => by
      have hbody := Forest.unlines_emit (depth + 1) children
      have hnil : Text.unlines [] = [] := rfl
      rw [Int.natCast_succ] at hbody
      rw [Node.emit, Node.outline]
      by_cases h : children.isEmpty = true
      · rw [if_pos h, if_pos h, writeRows_indented, Text.unlines_cons, hnil, List.append_nil]
      · rw [if_neg h, if_neg h]
        simp only [writeRows_append, writeRows_indented, ← hbody, Text.unlines_append,
          Text.unlines_cons, hnil, List.append_nil, List.cons_append, List.append_assoc]

/-- **The code of a forest is its rows.** -/
lemma Forest.unlines_emit : ∀ (depth : Nat) (forest : Forest),
    Text.unlines (Forest.emit indent depth forest).lines
      = writeRows indent (Forest.outline depth forest)
  | _, [] => by rw [Forest.emit, Forest.outline]; rfl
  | depth, node :: forest => by
      rw [Forest.emit, Forest.outline, writeRows_append, ← Node.unlines_emit depth node,
        ← Forest.unlines_emit depth forest, Emission.append, Text.unlines_append]

end

end Write

/-- The line that names the types, if the settings ask for it. -/
def Settings.header (settings : Settings) : Text :=
  if settings.referenceTypes then Scenario.line Command.referenceDirective else []

/-- **A script is its rows**; the settings say how they are indented and what stands in front. -/
lemma Scenario.page_eq_outline (settings : Settings) (scenario : Scenario) :
    scenario.page settings = settings.header ++ writeRows settings.indent scenario.outline := by
  have hforest (statements : List Text) :
      writeRows settings.indent (Forest.outline 2 (Forest.ofStatements statements))
        = (Forest.emit settings.indent 2 (Forest.ofStatements statements)).text :=
    (Forest.unlines_emit settings.indent 2 _).symm
  have hgiven : writeRows settings.indent (Row.indented 2 (resolve scenario.given).text)
      = Scenario.line (indentLine settings.indent 2 (resolve scenario.given).text) :=
    writeRows_indented settings.indent 2 _
  rw [Scenario.page, Scenario.outline, Settings.header]
  simp only [writeRows_append, writeRows_ofText, hforest, hgiven, indentLine_two,
    List.replicate_zero, List.replicate_one, List.flatten_nil, List.flatten_singleton,
    List.nil_append, List.append_assoc]

/-! ## Two results compared -/

/-- **Two results have the same content.**  Both are refusals for the same structure, or for the
    same token of the same statement, or both are scripts with the same name, warnings and number of
    nodes and with the same rows. -/
inductive SameContent (settings settings' : Settings) :
    Except CompileFault Compiled → Except CompileFault Compiled → Prop
  | malformed (fault : Scenario.StructureFault) :
    SameContent settings settings' (.error (.malformed fault)) (.error (.malformed fault))
  | rejected {fault fault' : SyntaxFault} (statement : fault.statement = fault'.statement)
      (token : fault.token = fault'.token) :
    SameContent settings settings' (.error (.rejected fault)) (.error (.rejected fault'))
  | compiled {compiled compiled' : Compiled} (name : compiled.name = compiled'.name)
      (warnings : compiled.warnings = compiled'.warnings)
      (nodeCount : compiled.nodeCount = compiled'.nodeCount) (rows : List Row)
      (script : compiled.script = settings.header ++ writeRows settings.indent rows)
      (script' : compiled'.script = settings'.header ++ writeRows settings'.indent rows) :
    SameContent settings settings' (.ok compiled) (.ok compiled')

lemma Scenario.same_content (settings settings' : Settings) (scenario : Scenario) :
    SameContent settings settings' ((scenario.compile settings).mapError .rejected)
      ((scenario.compile settings').mapError .rejected) := by
  have hplace := Suggester.mapError_place_validateAll settings.suggester settings'.suggester
    (scenario.statements.map (·.2))
  rw [Scenario.compile, Scenario.compile, Scenario.elaborate, Scenario.elaborate]
  cases hfirst : settings.suggester.validateAll (scenario.statements.map (·.2)) with
  | error fault =>
      cases hsecond : settings'.suggester.validateAll (scenario.statements.map (·.2)) with
      | error fault' =>
          rw [hfirst, hsecond] at hplace
          obtain ⟨hstatement, htoken⟩ := Prod.mk.inj (Except.error.inj hplace)
          exact .rejected hstatement htoken
      | ok _ =>
          rw [hfirst, hsecond] at hplace
          cases hplace
  | ok _ =>
      cases hsecond : settings'.suggester.validateAll (scenario.statements.map (·.2)) with
      | error fault' =>
          rw [hfirst, hsecond] at hplace
          cases hplace
      | ok _ =>
          obtain ⟨hname, hcount, hwarnings, hscript⟩ :=
            Scenario.result_iff_accounts.mp (rfl : (Compilation.of settings scenario).result settings
              = _)
          obtain ⟨hname', hcount', hwarnings', hscript'⟩ :=
            Scenario.result_iff_accounts.mp
              (rfl : (Compilation.of settings' scenario).result settings' = _)
          exact .compiled (hname.trans hname'.symm) (hwarnings.trans hwarnings'.symm)
            (hcount.trans hcount'.symm) scenario.outline
            (hscript.trans (scenario.page_eq_outline settings))
            (hscript'.trans (scenario.page_eq_outline settings'))

/-- **Settings change the layout and the suggestions, and nothing else**, for every scenario and for
    every value. -/
theorem compile_same_content (settings settings' : Settings) :
    (∀ scenario : Scenario,
        SameContent settings settings' ((scenario.compile settings).mapError .rejected)
          ((scenario.compile settings').mapError .rejected))
      ∧ ∀ value : Json,
        SameContent settings settings' (compile settings value) (compile settings' value) := by
  refine ⟨Scenario.same_content settings settings', fun value => ?_⟩
  rw [compile, compile]
  cases Scenario.load value with
  | error fault => exact .malformed fault
  | ok scenario => exact scenario.same_content settings settings'

end ScenarioScript
