import ScenarioScript.Proofs.Compilation.Accounts
import ScenarioScript.Proofs.Forest.Origins
import ScenarioScript.Proofs.Placeholder.Templates
import ScenarioScript.Proofs.Script.Lexing

/-!
# Which literals of a script are legal

A script writes the name and the given statement of its scenario as literals, and with every
placeholder that it replaces, what the slots of the placeholder took.  Each of these literals ends
at its own quote, but a literal of one line must not hold the end of a line.

* `Literal.IsLegal` — **a legal literal** with its value, and `Literal.isLegal_write_iff`: which
  values have one.
* `replacements` — the placeholders of a statement that are replaced, with what their slots took.
* `Scenario.literals` — **all literals of a script**, from left to right.
* `Drafts`, `IsDrafted` — a text has been written piece by piece, with certain literals.  Drafts
  are put together as the script is: `isDrafted_resolve`, `isDrafted_emit`, `isDrafted_page`.
* `Replacement.literals_isOneLine_iff` — which replacements bring the end of a line into a literal.
* `Scenario.literals_legal_iff` — **which scripts have legal literals only**.
-/

namespace ScenarioScript

/-! ## Legal literals -/

namespace Literal

/-- **A legal literal for a value**: it closes at its last quote, with this value, and it stands on
    one line. -/
structure IsLegal (source value : Text) : Prop where
  closes : ∀ rest, read? (source ++ rest) = some (value, rest)
  no_feed : char '\n' ∉ source
  no_return : char '\r' ∉ source

/-- Only a quote and a backslash are escaped, so all other characters stand in the literal. -/
lemma mem_write_iff {c : Letter} (hquote : c ≠ char '\'') (hslash : c ≠ char '\\') {value : Text} :
    c ∈ write value ↔ c ∈ value := by
  have hescape : ∀ d, c ∈ escape d ↔ c = d := by
    intro d
    rw [escape]
    split
    · simp [hslash]
    · simp
  simp [write, body, List.mem_flatMap, hescape, hquote]

end Literal

/-- **A text on one line.** -/
structure IsOneLine (text : Text) : Prop where
  no_feed : char '\n' ∉ text
  no_return : char '\r' ∉ text

instance (text : Text) : Decidable (IsOneLine text) :=
  decidable_of_iff (char '\n' ∉ text ∧ char '\r' ∉ text)
    ⟨fun ⟨h, h'⟩ => ⟨h, h'⟩, fun ⟨h, h'⟩ => ⟨h, h'⟩⟩

/-- **A written literal is legal exactly if its value is on one line.** -/
lemma Literal.isLegal_write_iff {value : Text} : IsLegal (write value) value ↔ IsOneLine value := by
  constructor
  · rintro ⟨-, hfeed, hreturn⟩
    rw [mem_write_iff (by decide) (by decide)] at hfeed hreturn
    exact ⟨hfeed, hreturn⟩
  · rintro ⟨hfeed, hreturn⟩
    refine ⟨read?_write_append value, ?_, ?_⟩
    · rwa [mem_write_iff (by decide) (by decide)]
    · rwa [mem_write_iff (by decide) (by decide)]

lemma isOneLine_append {first second : Text} :
    IsOneLine (first ++ second) ↔ IsOneLine first ∧ IsOneLine second := by
  constructor
  · rintro ⟨hfeed, hreturn⟩
    simp only [List.mem_append, not_or] at hfeed hreturn
    exact ⟨⟨hfeed.1, hreturn.1⟩, ⟨hfeed.2, hreturn.2⟩⟩
  · rintro ⟨hfirst, hsecond⟩
    exact ⟨by simp [hfirst.no_feed, hsecond.no_feed], by simp [hfirst.no_return, hsecond.no_return]⟩

/-! ## Replacements -/

/-- **A placeholder that is replaced**: the form of its argument, and what the slots took. -/
structure Replacement where
  form : Form
  values : List Text

namespace Replacement

/-- What the literals of the code say. -/
def literals (replacement : Replacement) : List Text :=
  replacement.form.code.wordings.map (Wording.fill replacement.values)

/-- The replacement that a visit makes, if some form accepts. -/
def of? (v : Family × Occurrence) : Option Replacement :=
  (v.1.form? v.2.argument).bind fun form =>
    (form.phrase.captures? v.2.argument).map fun values => ⟨form, values⟩

/-- The replacement behind a splice: that of the visit that made it. -/
def ofSplice? (statement : Text) (splice : Splice) : Option Replacement :=
  ((visits registry statement).find? fun v => spliceOf? v = some splice).bind of?

/-- A form of the registry with values that its slots took. -/
structure IsGenuine (replacement : Replacement) : Prop where
  form : ∃ tag, replacement.form ∈ (Family.ofTag tag).forms
  values : ∃ argument, replacement.form.phrase.captures? argument = some replacement.values

end Replacement

/-- **The replacements of a statement**, from left to right. -/
def replacements (statement : Text) : List Replacement :=
  (Scan.run registry statement).splices.filterMap (Replacement.ofSplice? statement)

/-- **All literals that a statement gives.** -/
def literalsOf (statement : Text) : List Text :=
  (replacements statement).flatMap Replacement.literals

namespace Replacement

/-- The visit that made a splice gives its code. -/
lemma exists_ofSplice? {statement : Text} {splice : Splice}
    (h : splice ∈ (Scan.run registry statement).splices) :
    ∃ replacement, ofSplice? statement splice = some replacement ∧ replacement.IsGenuine
      ∧ replacement.form.code.render replacement.values = splice.code := by
  obtain ⟨v, hv, hsplice⟩ := Scan.mem_splices_run h
  have hsome : ((visits registry statement).find? fun v => spliceOf? v = some splice).isSome := by
    rw [List.find?_isSome]
    exact ⟨v, hv, by simpa using hsplice⟩
  obtain ⟨⟨family, o⟩, hfound⟩ := Option.isSome_iff_exists.mp hsome
  have hmade : spliceOf? (family, o) = some splice := by simpa using List.find?_some hfound
  have hfamily := (mem_visits_iff.mp (List.mem_of_find?_eq_some hfound)).1
  obtain ⟨code, hcode, rfl⟩ := Option.map_eq_some_iff.mp hmade
  obtain ⟨form, hform, hrender⟩ := Option.bind_eq_some_iff.mp hcode
  obtain ⟨values, hvalues, rfl⟩ := Option.map_eq_some_iff.mp hrender
  refine ⟨⟨form, values⟩, ?_, ⟨⟨family.tag, ?_⟩, o.argument, hvalues⟩, rfl⟩
  · rw [ofSplice?, hfound, Option.bind_some, of?, hform, Option.bind_some, hvalues, Option.map_some]
  · rw [← eq_ofTag_of_mem_registry hfamily]
    exact List.mem_of_find?_eq_some hform

lemma isGenuine_of_mem {statement : Text} {replacement : Replacement}
    (h : replacement ∈ replacements statement) : replacement.IsGenuine := by
  obtain ⟨splice, hsplice, heq⟩ := List.mem_filterMap.mp h
  obtain ⟨other, hother, hgenuine, -⟩ := exists_ofSplice? hsplice
  obtain rfl := Option.some.inj (hother.symm.trans heq)
  exact hgenuine

/-- The fixed texts around the values of a literal. -/
def fixedTexts : Wording → List Text
  | .fixed text => [text]
  | .value before _ after => [before, after]

/-- No fixed text of the registry ends a line. -/
lemma isOneLine_fixedTexts (tag : Tag) : ∀ form ∈ (Family.ofTag tag).forms,
    ∀ wording ∈ form.code.wordings, ∀ text ∈ fixedTexts wording, IsOneLine text := by
  cases tag <;> decide

/-- **The literals of a replacement are on one line** exactly if no value has a carriage return: a
    slot takes no line feed, and every value gets into a literal. -/
lemma literals_isOneLine_iff {replacement : Replacement} (h : replacement.IsGenuine) :
    (∀ literal ∈ replacement.literals, IsOneLine literal)
      ↔ ∀ value ∈ replacement.values, char '\r' ∉ value := by
  obtain ⟨⟨tag, hform⟩, argument, hcaptures⟩ := h
  obtain ⟨-, hlength, hgroups⟩ := Phrase.write?_of_captures? hcaptures
  have hfixed := isOneLine_fixedTexts tag replacement.form hform
  rw [literals, List.forall_mem_map]
  constructor
  · intro hliterals value hvalue
    obtain ⟨index, hindex, rfl⟩ := List.getElem_of_mem hvalue
    have hused : index ∈ replacement.form.code.wordings.filterMap Wording.index? := by
      rw [(code_of_mem_forms tag replacement.form hform).2.mem_iff, List.mem_range,
        (agrees_of_mem_forms tag replacement.form hform).2, ← hlength]
      exact hindex
    obtain ⟨wording, hwording, hsome⟩ := List.mem_filterMap.mp hused
    cases wording with
    | fixed text => exact absurd hsome (by simp [Wording.index?])
    | value before other after =>
        obtain rfl : other = index := by simpa [Wording.index?] using hsome
        have hline := hliterals _ hwording
        rw [Wording.fill, isOneLine_append, isOneLine_append, List.getD_eq_getElem?_getD,
          List.getElem?_eq_getElem hindex] at hline
        exact hline.1.2.no_return
  · intro hvalues wording hwording
    cases wording with
    | fixed text => exact hfixed _ hwording text (by simp [fixedTexts])
    | value before index after =>
        rw [Wording.fill, isOneLine_append, isOneLine_append]
        refine ⟨⟨hfixed _ hwording before (by simp [fixedTexts]), ?_⟩,
          hfixed _ hwording after (by simp [fixedTexts])⟩
        rw [List.getD_eq_getElem?_getD]
        cases hget : replacement.values[index]? with
        | none => exact ⟨by simp, by simp⟩
        | some value =>
            have hmem := List.mem_of_getElem? hget
            exact ⟨(hgroups value hmem).2, hvalues value hmem⟩

end Replacement

/-! ## Drafts -/

namespace Snippet

/-- **What the literals of a snippet say** if it asks for no values. -/
def literals (snippet : Snippet) : List Text :=
  snippet.wordings.map (Wording.fill [])

/-- A snippet with the values put in. -/
def settle (values : List Text) (snippet : Snippet) : Snippet :=
  snippet.map fun
    | .code text => .code text
    | .literal wording => .literal (.fixed (wording.fill values))

end Snippet

/-- **A draft of a text**: written piece by piece it is the text, and these are its literals. -/
structure Drafts (snippet : Snippet) (text : Text) (literals : List Text) : Prop where
  text : snippet.render [] = text
  literals : snippet.literals = literals

namespace Drafts

lemma code (text : Text) : Drafts [.code text] text [] :=
  ⟨by simp [Snippet.render, Piece.render], rfl⟩

lemma append {first second : Snippet} {text text' : Text} {literals literals' : List Text}
    (h : Drafts first text literals) (h' : Drafts second text' literals') :
    Drafts (first ++ second) (text ++ text') (literals ++ literals') := by
  constructor
  · rw [Snippet.render, List.flatMap_append, ← h.text, ← h'.text]
    rfl
  · rw [Snippet.literals, Snippet.wordings, List.filterMap_append, List.map_append, ← h.literals,
      ← h'.literals]
    rfl

/-- Filling in the values first makes no difference. -/
lemma settle (values : List Text) (snippet : Snippet) :
    Drafts (snippet.settle values) (snippet.render values)
      (snippet.wordings.map (Wording.fill values)) := by
  induction snippet with
  | nil => exact ⟨rfl, rfl⟩
  | cons piece snippet ih =>
      cases piece with
      | code text => exact (code text).append ih
      | literal wording =>
          have hliteral : Drafts [.literal (.fixed (wording.fill values))]
              (Literal.write (wording.fill values)) [wording.fill values] :=
            ⟨by simp [Snippet.render, Piece.render, Wording.fill], rfl⟩
          exact hliteral.append ih

end Drafts

/-- There is a draft of the text with these literals. -/
def IsDrafted (text : Text) (literals : List Text) : Prop :=
  ∃ snippet, Drafts snippet text literals

namespace IsDrafted

lemma code (text : Text) : IsDrafted text [] :=
  ⟨_, Drafts.code text⟩

lemma append {text text' : Text} {literals literals' : List Text} (h : IsDrafted text literals)
    (h' : IsDrafted text' literals') : IsDrafted (text ++ text') (literals ++ literals') := by
  obtain ⟨first, hfirst⟩ := h
  obtain ⟨second, hsecond⟩ := h'
  exact ⟨first ++ second, hfirst.append hsecond⟩

/-- Code in front of a draft. -/
lemma prepend (front : Text) {text : Text} {literals : List Text} (h : IsDrafted text literals) :
    IsDrafted (front ++ text) literals :=
  (code front).append h

lemma line {text : Text} {literals : List Text} (h : IsDrafted text literals) :
    IsDrafted (Scenario.line text) literals := by
  have hline := h.append (code [char '\n'])
  rwa [List.append_nil] at hline

/-- Indenting adds code or nothing. -/
lemma indentLine {text : Text} {literals : List Text} (h : IsDrafted text literals)
    (indent : Text) (depth : Int) : IsDrafted (ScenarioScript.indentLine indent depth text)
      literals := by
  rw [ScenarioScript.indentLine]
  split
  · next hempty =>
      rw [List.isEmpty_iff] at hempty
      rwa [hempty] at h
  · exact h.prepend _

end IsDrafted

/-! ## Scripts -/

/-- **The code of a replacement is drafted** with its literals. -/
lemma isDrafted_replacement (replacement : Replacement) :
    IsDrafted (replacement.form.code.render replacement.values) replacement.literals :=
  ⟨_, Drafts.settle replacement.values replacement.form.code⟩

lemma isDrafted_assemble {statement : Text} {splices : List Splice}
    (h : splices ⊆ (Scan.run registry statement).splices) (position : Nat) (rest : Text) :
    IsDrafted (Scan.assemble position rest splices)
      ((splices.filterMap (Replacement.ofSplice? statement)).flatMap Replacement.literals) := by
  induction splices generalizing position rest with
  | nil => exact .code rest
  | cons splice splices ih =>
      rw [List.cons_subset] at h
      obtain ⟨replacement, hfound, -, hcode⟩ := Replacement.exists_ofSplice? h.1
      rw [Scan.assemble, List.filterMap_cons_some hfound, List.flatMap_cons, ← hcode]
      exact ((isDrafted_replacement replacement).prepend _).append (ih h.2 _ _)

/-- **A resolved statement is drafted** with the literals of its replacements. -/
lemma isDrafted_resolve (statement : Text) :
    IsDrafted (resolve statement).text (literalsOf statement) :=
  isDrafted_assemble (fun _ h => h) 0 statement

lemma isDrafted_ifOpen {condition : Text} {literals : List Text}
    (h : IsDrafted condition literals) :
    IsDrafted (Command.ifOpen condition) literals := by
  have hopen := (h.prepend "if (".toText).append (.code ") \x7b".toText)
  rwa [List.append_nil] at hopen

/-- **The code of a forest is drafted** with the literals of its statements, at any depth. -/
lemma isDrafted_emit (indent : Text) (forest : Forest) : ∀ depth : Int,
    IsDrafted (Text.unlines (Forest.emit indent depth forest).lines)
      ((Forest.traverse forest).flatMap literalsOf) := by
  induction forest using Forest.induction with
  | nil =>
      intro depth
      rw [Forest.emit, Forest.traverse]
      exact .code []
  | cons node forest ihchildren ihforest =>
      intro depth
      rw [Forest.emit, Emission.append, Text.unlines_append, Forest.traverse, List.flatMap_append]
      refine IsDrafted.append ?_ (ihforest depth)
      obtain ⟨statement, conditional, children⟩ := node
      have hnil : Text.unlines [] = [] := rfl
      have hown := isDrafted_resolve statement
      rw [Node.emit, Node.traverse, List.flatMap_cons]
      split
      · next hempty =>
          have hline := (hown.indentLine indent depth).line
          rw [List.isEmpty_iff.mp hempty, Forest.traverse, List.flatMap_nil, List.append_nil,
            Text.unlines_cons, hnil, List.append_nil]
          exact hline
      · have hopen := ((isDrafted_ifOpen hown).indentLine indent depth).line
        have hclose := ((IsDrafted.code Command.ifClose).indentLine indent depth).line
        have hblock := hopen.append ((ihchildren (depth + 1)).append hclose)
        rw [List.append_nil] at hblock
        show IsDrafted (Text.unlines (indentLine indent depth (Command.ifOpen _)
          :: ((Forest.emit indent (depth + 1) children).lines
            ++ [indentLine indent depth Command.ifClose]))) _
        rw [Text.unlines_cons, Text.unlines_append, Text.unlines_cons, hnil, List.append_nil]
        exact hblock

/-- **The statements that a script resolves**: all but the closing markers. -/
def Scenario.resolved (scenario : Scenario) : List Text :=
  scenario.given :: kept scenario.actions ++ kept scenario.outcomes

/-- **All literals of a script**, from left to right. -/
def Scenario.literals (scenario : Scenario) : List Text :=
  scenario.name :: scenario.given :: scenario.resolved.flatMap literalsOf

lemma isDrafted_describeOpen (name : Text) :
    IsDrafted ((Command.describeOpen name).render []) [name] :=
  ⟨_, rfl, rfl⟩

lemma isDrafted_itOpen (title : Text) : IsDrafted ((Command.itOpen title).render []) [title] :=
  ⟨_, rfl, rfl⟩

/-- **A script is drafted** with the literals of its scenario. -/
lemma isDrafted_page (settings : Settings) (scenario : Scenario) :
    IsDrafted (scenario.page settings) scenario.literals := by
  have hgiven := ((isDrafted_resolve scenario.given).indentLine settings.indent 2).line
  rw [indentLine_two] at hgiven
  have hactions := isDrafted_emit settings.indent (Forest.ofStatements scenario.actions) 2
  have houtcomes := isDrafted_emit settings.indent (Forest.ofStatements scenario.outcomes) 2
  rw [Forest.traverse_ofStatements] at hactions houtcomes
  have hpage := (((((((((IsDrafted.code
      (if settings.referenceTypes then Scenario.line Command.referenceDirective else [])).append
    (isDrafted_describeOpen scenario.name).line).append
    ((isDrafted_itOpen scenario.given).prepend settings.indent).line).append
    hgiven).append
    (IsDrafted.code []).line).append
    hactions).append
    (IsDrafted.code []).line).append
    houtcomes).append
    (IsDrafted.code (settings.indent ++ Command.callbackClose)).line).append
    (IsDrafted.code Command.callbackClose).line
  have hliterals : scenario.literals
      = [] ++ [scenario.name] ++ [scenario.given] ++ literalsOf scenario.given ++ []
        ++ (kept scenario.actions).flatMap literalsOf ++ []
        ++ (kept scenario.outcomes).flatMap literalsOf ++ [] ++ [] := by
    simp [Scenario.literals, Scenario.resolved]
  rw [hliterals]
  exact hpage

/-- **Which scripts have legal literals only.**  The script of an accepted scenario is code with
    these literals in it, in this order: the name, the given statement, and what the replaced
    placeholders of its statements say.  All of them are legal exactly if name and given statement
    are on one line and no slot of a replaced placeholder has taken a carriage return. -/
theorem Scenario.literals_legal_iff (settings : Settings) (scenario : Scenario)
    (compiled : Compiled) (h : scenario.compile settings = .ok compiled) :
    (∃ draft : Snippet, draft.render [] = compiled.script ∧ draft.literals = scenario.literals)
      ∧ ((∀ value ∈ scenario.literals, Literal.IsLegal (Literal.write value) value)
        ↔ IsOneLine scenario.name ∧ IsOneLine scenario.given
          ∧ ∀ statement ∈ scenario.resolved, ∀ replacement ∈ replacements statement,
            ∀ value ∈ replacement.values, char '\r' ∉ value) := by
  have haccounts := (Scenario.compile_eq_ok_iff.mp h).2
  obtain ⟨draft, htext, hliterals⟩ := isDrafted_page settings scenario
  have hstatement (statement : Text) : (∀ value ∈ literalsOf statement, IsOneLine value)
      ↔ ∀ replacement ∈ replacements statement, ∀ value ∈ replacement.values,
          char '\r' ∉ value := by
    rw [literalsOf, List.forall_mem_flatMap]
    constructor
    · intro hline replacement hmem
      exact (Replacement.literals_isOneLine_iff (Replacement.isGenuine_of_mem hmem)).mp
        (hline replacement hmem)
    · intro hvalues replacement hmem
      exact (Replacement.literals_isOneLine_iff (Replacement.isGenuine_of_mem hmem)).mpr
        (hvalues replacement hmem)
  refine ⟨⟨draft, htext.trans haccounts.script.symm, hliterals⟩, ?_⟩
  simp only [Literal.isLegal_write_iff, Scenario.literals, List.forall_mem_cons,
    List.forall_mem_flatMap, hstatement]

/-- A scenario with quotes and backslashes in its texts. -/
def quoting : Scenario where
  name := "It's".toText
  given := "<visit_url http://x/it's>".toText
  actions := ["<if_#a exists>".toText, "<input_name value back\\slash>".toText, "<if_end>".toText]
  outcomes := ["<assert_#title has text Hi>".toText]

/-- The case of quotes and backslashes. -/
theorem Scenario.literals_legal_of_quoting :
    ∃ compiled draft, quoting.compile {} = .ok compiled ∧ Snippet.render [] draft = compiled.script
      ∧ draft.literals = ["It's".toText, "<visit_url http://x/it's>".toText,
        "http://x/it's".toText, "#a".toText, "exist".toText, "input.name".toText,
        "back\\slash".toText, "#title".toText, "contain.text".toText, "Hi".toText]
      ∧ ∀ value ∈ draft.literals, Literal.IsLegal (Literal.write value) value := by
  have haccepted : (quoting.compile {}).toOption.isSome = true := by decide +kernel
  obtain ⟨compiled, hcompiled⟩ := Option.isSome_iff_exists.mp haccepted
  have hcompile := eq_ok_of_toOption hcompiled
  obtain ⟨⟨draft, htext, hliterals⟩, hlegal⟩ :=
    Scenario.literals_legal_iff {} quoting compiled hcompile
  refine ⟨compiled, draft, hcompile, htext, hliterals.trans (by decide +kernel), ?_⟩
  rw [hliterals]
  exact hlegal.mpr (by decide +kernel)

/-- A scenario with a name of two lines. -/
def breaking : Scenario where
  name := "a\nb".toText
  given := "<end>".toText
  actions := ["<click_a>".toText]
  outcomes := ["<end>".toText]

/-- **A name of two lines breaks its literal.** -/
theorem Scenario.literal_broken_by_name :
    breaking.compile {} = .ok
        { name := "a\nb".toText
          script := ("/// <reference types=\"cypress\" />\ndescribe('a\nb', () => \x7b\n"
            ++ "  it('<end>', () => \x7b\n\n\n    cy.get('a').click()\n\n\n"
            ++ "  \x7d);\n\x7d);\n").toText
          warnings := []
          nodeCount := 2 }
      ∧ breaking.name ∈ breaking.literals
      ∧ ¬ Literal.IsLegal (Literal.write breaking.name) breaking.name := by
  refine ⟨?_, List.mem_cons_self, ?_⟩
  · exact eq_ok_of_toOption (by decide +kernel)
  · intro hlegal
    exact hlegal.no_feed (by decide)

end ScenarioScript
