import Mathlib.Data.List.Forall2
import Mathlib.Tactic.Lemma
import ScenarioScript.Placeholder.Registry
import ScenarioScript.Proofs.Placeholder.Phrases

/-!
# Arguments stay inside their literals

A reader of scripts alternates between code and string literals.  If it finds a literal where none
was written, or the end of one too early, an argument has become code.

* `Lexed.read?` — **the reader**: the code of a text with the contents of its literals taken out,
  and these contents.
* `Lexed.read?_write_append` — a written literal is read as one literal, whatever it says.
* `Snippet.read?_render` — a snippet is read back piece by piece: its code is its frame, which does
  not depend on the values.
* `Phrase.length_captures` — a phrase takes one value for each slot, so `Wording.says_fill` finds
  the value of every literal.
* `literals_of_rendered_arguments` — the result, for every form of the registry, and for the first
  lines of test suites and test cases.
-/

namespace ScenarioScript

/-! ## The reader -/

/-- **A text taken apart**: its code, in which every literal is left as a pair of quotes, and the
    contents of the literals, from left to right. -/
structure Lexed where
  code : Text
  literals : List Text
deriving Repr, DecidableEq

namespace Lexed

def prepend (code : Text) (lexed : Lexed) : Lexed :=
  { lexed with code := code ++ lexed.code }

/-- Puts the end of a literal in front. -/
def close (content : Text) (lexed : Lexed) : Lexed :=
  ⟨char '\'' :: lexed.code, content :: lexed.literals⟩

/-- **Reads a text.** `inside` is what the literal at hand has said so far, and `none` in code.  In
    a literal, a backslash makes the next character content, and a bare quote ends the literal.  A
    text that ends inside a literal is none. -/
def read? : (inside : Option Text) → Text → Option Lexed
  | none, [] => some ⟨[], []⟩
  | some _, [] => none
  | none, c :: rest => (read? (if c = char '\'' then some [] else none) rest).map (prepend [c])
  | some content, char '\\' :: c :: rest => read? (some (content ++ [c])) rest
  | some content, c :: rest =>
    if c = char '\'' then (read? none rest).map (close content)
    else if c = char '\\' then none
    else read? (some (content ++ [c])) rest

lemma read?_code_append {code : Text} (h : char '\'' ∉ code) (rest : Text) :
    read? none (code ++ rest) = (read? none rest).map (prepend code) := by
  induction code with
  | nil => exact Option.map_id'.symm
  | cons c code ih =>
      simp only [List.mem_cons, not_or] at h
      rw [List.cons_append, read?, if_neg (Ne.symm h.1), ih h.2, Option.map_map]
      rfl

lemma read?_body_append (content value rest : Text) :
    read? (some content) (Literal.body value ++ char '\'' :: rest)
      = (read? none rest).map (close (content ++ value)) := by
  induction value generalizing content with
  | nil => simp [Literal.body, read?]
  | cons c value ih =>
      have hbody : Literal.body (c :: value) = Literal.escape c ++ Literal.body value := rfl
      have hrest := ih (content ++ [c])
      rw [List.append_assoc, List.singleton_append] at hrest
      rw [hbody, Literal.escape]
      by_cases hescaped : (c = char '\\' || c = char '\'') = true
      · rw [if_pos hescaped]
        exact hrest
      · simp only [Bool.or_eq_true, decide_eq_true_eq, not_or] at hescaped
        simp [read?, hescaped.1, hescaped.2, hrest]

/-- **A written literal is read as one literal**, with what it says. -/
lemma read?_write_append (value rest : Text) :
    read? none (Literal.write value ++ rest)
      = (read? none rest).map fun lexed => prepend [char '\''] (close value lexed) := by
  have hwrite : Literal.write value ++ rest
      = char '\'' :: (Literal.body value ++ char '\'' :: rest) := by
    simp [Literal.write]
  rw [hwrite, read?, if_pos rfl, read?_body_append, Option.map_map]
  rfl

end Lexed

/-! ## Snippets -/

/-- What is left of a piece when the values are not known. -/
def Piece.frame : Piece → Text
  | .code text => text
  | .literal _ => [char '\'', char '\'']

def Piece.wording? : Piece → Option Wording
  | .code _ => none
  | .literal wording => some wording

/-- The piece has no quote outside of literals. -/
def Piece.isBare : Piece → Bool
  | .code text => !text.contains (char '\'')
  | .literal _ => true

/-- The index of the value that a literal says, unless it always says the same. -/
def Wording.index? : Wording → Option Nat
  | .fixed _ => none
  | .value _ index _ => some index

/-- **A literal says what its wording asks for**: the fixed text, or the value of the index between
    the two fixed texts. -/
inductive Wording.Says (values : List Text) : Wording → Text → Prop
  | fixed (text : Text) : Says values (.fixed text) text
  | value {index : Nat} {value : Text} (h : values[index]? = some value) (before after : Text) :
    Says values (.value before index after) (before ++ value ++ after)

namespace Snippet

/-- **The frame of a snippet**: its code with empty literals. -/
def frame (snippet : Snippet) : Text :=
  snippet.flatMap Piece.frame

/-- What the literals of a snippet say, from left to right. -/
def wordings (snippet : Snippet) : List Wording :=
  snippet.filterMap Piece.wording?

/-- **A snippet is read back piece by piece.** -/
lemma read?_render {snippet : Snippet} (h : snippet.all Piece.isBare = true) (values : List Text) :
    Lexed.read? none (snippet.render values)
      = some ⟨snippet.frame, snippet.wordings.map (Wording.fill values)⟩ := by
  induction snippet with
  | nil => rfl
  | cons piece snippet ih =>
      obtain ⟨hpiece, hsnippet⟩ := Bool.and_eq_true_iff.mp (List.all_cons.symm.trans h)
      have hrender : render values (piece :: snippet)
          = piece.render values ++ render values snippet := rfl
      rw [hrender]
      cases piece with
      | code text =>
          have hbare : char '\'' ∉ text := by simpa [Piece.isBare] using hpiece
          rw [Piece.render, Lexed.read?_code_append hbare, ih hsnippet]
          rfl
      | literal wording =>
          rw [Piece.render, Lexed.read?_write_append, ih hsnippet]
          rfl

end Snippet

lemma Wording.says_fill {values : List Text} {wording : Wording}
    (h : wording.usesBelow values.length = true) : wording.Says values (wording.fill values) := by
  cases wording with
  | fixed text => exact .fixed text
  | value before index after =>
      have hindex : index < values.length := by simpa [Wording.usesBelow] using h
      rw [Wording.fill, List.getD_eq_getElem?_getD, List.getElem?_eq_getElem hindex]
      exact .value (List.getElem?_eq_getElem hindex) before after

/-- Every literal of a snippet says what it should, if the values suffice. -/
lemma Snippet.says_wordings {snippet : Snippet} {values : List Text}
    (h : snippet.usesBelow values.length = true) :
    List.Forall₂ (Wording.Says values) snippet.wordings
      (snippet.wordings.map (Wording.fill values)) := by
  rw [List.forall₂_map_right_iff, List.forall₂_same]
  intro wording hwording
  obtain ⟨piece, hpiece, hsome⟩ := List.mem_filterMap.mp hwording
  have huses := List.all_eq_true.mp h piece hpiece
  cases piece with
  | code text => exact absurd hsome (by simp [Piece.wording?])
  | literal other =>
      obtain rfl : other = wording := by simpa [Piece.wording?] using hsome
      exact Wording.says_fill huses

/-! ## Forms -/

lemma Form.read?_render {form : Form} (hbare : form.code.all Piece.isBare = true)
    {argument : Text} {values : List Text} (h : form.phrase.captures? argument = some values) :
    ∃ text literals, form.render? argument = some text
      ∧ Lexed.read? none text = some ⟨form.code.frame, literals⟩
      ∧ List.Forall₂ (Wording.Says values) form.code.wordings literals := by
  have hcovered : form.code.usesBelow values.length = true := by
    rw [Phrase.length_captures h]
    exact form.covered
  refine ⟨form.code.render values, _, ?_, form.code.read?_render hbare values,
    Snippet.says_wordings hcovered⟩
  rw [Form.render?, h]
  rfl

/-- **The code of the registry.**  No piece of code has a quote in it, and the literals of a form
    say the value of each slot once. -/
lemma code_of_mem_forms (tag : Tag) : ∀ form ∈ (Family.ofTag tag).forms,
    form.code.all Piece.isBare = true
      ∧ (form.code.wordings.filterMap Wording.index?).Perm (List.range form.slotCount) := by
  cases tag <;> decide

-- An action names its target last, and the code has it first.
example : (Family.ofTag .action).forms.map
      (fun form => (form.code.frame, form.code.wordings.map Wording.index?))
    = [("cy.get('').type('')".toText, [some 1, some 0]),
      ("cy.get('').select('')".toText, [some 1, some 0]),
      ("cy.get('').check()".toText, [some 0]), ("cy.get('').uncheck()".toText, [some 0])] := by
  decide

/-- **No argument leaves its literal.**  Whatever argument a form of the registry accepts, its code
    can be read, and is the frame of the form with empty literals.  The literals say, from left to
    right, the fixed texts and the captured values that the form asks for, and every captured value
    is said once.  In the same way, a name stays inside the first line of a test suite, and a title
    inside that of a test case. -/
theorem literals_of_rendered_arguments :
    (∀ family ∈ registry, ∀ form ∈ family.forms,
        (form.code.wordings.filterMap Wording.index?).Perm (List.range form.slotCount)
          ∧ ∀ (argument : Text) (values : List Text),
            form.phrase.captures? argument = some values →
              ∃ text literals, form.render? argument = some text
                ∧ Lexed.read? none text = some ⟨form.code.frame, literals⟩
                ∧ List.Forall₂ (Wording.Says values) form.code.wordings literals)
      ∧ (∀ name : Text, Lexed.read? none ((Command.describeOpen name).render [])
        = some ⟨"describe('', () => \x7b".toText, [name]⟩)
      ∧ ∀ title : Text, Lexed.read? none ((Command.itOpen title).render [])
        = some ⟨"it('', () => \x7b".toText, [title]⟩ := by
  refine ⟨fun family hfamily form hform => ?_, fun name => ?_, fun title => ?_⟩
  · obtain ⟨tag, -, rfl⟩ := List.mem_map.mp hfamily
    obtain ⟨hbare, hindices⟩ := code_of_mem_forms tag form hform
    exact ⟨hindices, fun argument values h => Form.read?_render hbare h⟩
  · exact Snippet.read?_render rfl []
  · exact Snippet.read?_render rfl []

/-- The case of an argument that tries to end its literals: both values have quotes and a backslash
    in them, and the code is the one of any other input. -/
theorem literals_of_rendered_quotes :
    ∃ family ∈ registry, ∃ form ∈ family.forms,
      form.phrase.captures? "a\\' value '); b(\\".toText
          = some ["a\\'".toText, "'); b(\\".toText]
        ∧ ∃ text literals, form.render? "a\\' value '); b(\\".toText = some text
          ∧ Lexed.read? none text = some ⟨"cy.get('').type('')".toText, literals⟩
          ∧ List.Forall₂ (Wording.Says ["a\\'".toText, "'); b(\\".toText]) form.code.wordings
              literals := by
  obtain ⟨hforms, -⟩ := literals_of_rendered_arguments
  have hfamily : Family.ofTag .input ∈ registry := List.mem_map.mpr ⟨.input, Tag.mem_all _, rfl⟩
  have hform : (Family.ofTag .input).forms.head (by decide) ∈ (Family.ofTag .input).forms :=
    List.head_mem _
  have hcaptures : ((Family.ofTag .input).forms.head (by decide)).phrase.captures?
      "a\\' value '); b(\\".toText = some ["a\\'".toText, "'); b(\\".toText] := by
    decide
  exact ⟨_, hfamily, _, hform, hcaptures, (hforms _ hfamily _ hform).2 _ _ hcaptures⟩

end ScenarioScript
