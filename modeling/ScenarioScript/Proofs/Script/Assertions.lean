import Mathlib.Logic.Function.Basic
import Mathlib.Tactic.Lemma
import ScenarioScript.Script.Command

/-!
# Assertions read back

An assertion lists a property and its arguments, each as a literal, with commas between them.
Commas, quotes and brackets may stand in the arguments too.  They do not matter, because a literal
is read up to its own closing quote, and only then a comma or a bracket is looked for.

* `Literal.body_eq_replaceEach` — the inside of a literal is written by two replacements in turn:
  backslashes first, quotes second.
* `Assertion.read?` — **the reader** of what stands behind a chain, from literal to literal.
* `Assertion.readArguments?_append` — a list of arguments of any length is read back.
* `Command.render_should` — an assertion on a chain is the chain and then the assertion.
* `assertions_read_back` — the result.
-/

namespace ScenarioScript

namespace Literal

/-! ## Two replacements -/

def doubleBackslash (c : Letter) : Text :=
  if c = char '\\' then [char '\\', char '\\'] else [c]

def shieldQuote (c : Letter) : Text :=
  if c = char '\'' then [char '\\', char '\''] else [c]

/-- **The inside of a literal in two replacements**: all backslashes are doubled, and then all
    quotes get a backslash in front.  The second replacement leaves the backslashes of the first
    alone. -/
lemma body_eq_replaceEach (value : Text) :
    body value = Text.replaceEach shieldQuote (Text.replaceEach doubleBackslash value) := by
  have heach : ∀ c : Letter, escape c = Text.replaceEach shieldQuote (doubleBackslash c) := by
    intro c
    by_cases hbackslash : c = char '\\'
    · subst hbackslash
      decide
    · by_cases hquote : c = char '\''
      · subst hquote
        decide
      · simp [escape, doubleBackslash, shieldQuote, Text.replaceEach, hbackslash, hquote]
  simp only [Text.replaceEach] at heach ⊢
  rw [List.flatMap_assoc, body]
  exact congrArg (List.flatMap · value) (funext heach)

/-! ## What a reader leaves -/

lemma length_lt_of_readBody? {text value rest : Text} (h : readBody? text = some (value, rest)) :
    rest.length < text.length := by
  fun_induction readBody? text generalizing value with
  | case1 => simp at h
  | case2 c tail ih =>
      obtain ⟨⟨content, behind⟩, hread, heq⟩ := Option.map_eq_some_iff.mp h
      obtain ⟨-, rfl⟩ := Prod.mk.inj heq
      have hlt := ih hread
      simp only [List.length_cons]
      omega
  | case3 tail _ =>
      obtain ⟨-, rfl⟩ := Prod.mk.inj (Option.some.inj h)
      simp
  | case4 => simp at h
  | case5 c tail _ _ _ ih =>
      obtain ⟨⟨content, behind⟩, hread, heq⟩ := Option.map_eq_some_iff.mp h
      obtain ⟨-, rfl⟩ := Prod.mk.inj heq
      have hlt := ih hread
      simp only [List.length_cons]
      omega

lemma length_lt_of_read? {text value rest : Text} (h : read? text = some (value, rest)) :
    rest.length < text.length := by
  cases text with
  | nil => simp [read?] at h
  | cons c text =>
      rw [read?] at h
      split at h
      · have hlt := length_lt_of_readBody? h
        simp only [List.length_cons]
        omega
      · simp at h

end Literal

/-! ## Assertions -/

/-- **An assertion**: a property, and what it is asked about. -/
structure Assertion where
  property : Text
  arguments : List Text
deriving Repr, DecidableEq

namespace Assertion

/-- **An assertion in a script**, as it stands behind a chain. -/
def write (assertion : Assertion) : Text :=
  ".should(".toText
    ++ ", ".toText.intercalate ((assertion.property :: assertion.arguments).map Literal.write)
    ++ [char ')']

/-- Reads arguments up to the closing bracket, each one behind a comma. -/
def readArguments? (text : Text) : Option (List Text × Text) :=
  match _hcomma : Text.after? ", ".toText text with
  | none => (Text.after? [char ')'] text).map fun rest => ([], rest)
  | some behind =>
    match _hread : Literal.read? behind with
    | none => none
    | some (argument, rest) =>
      (readArguments? rest).map fun (arguments, tail) => (argument :: arguments, tail)
termination_by text.length
decreasing_by
  have hlt := Literal.length_lt_of_read? _hread
  have htext := congrArg List.length (Text.after?_eq_some_iff.mp _hcomma)
  rw [List.length_append] at htext
  omega

/-- **Reads an assertion** from the start of a text. -/
def read? (text : Text) : Option (Assertion × Text) :=
  (Text.after? ".should(".toText text).bind fun behind =>
    (Literal.read? behind).bind fun (property, rest) =>
      (readArguments? rest).map fun (arguments, tail) => (⟨property, arguments⟩, tail)

lemma readArguments?_close (rest : Text) : readArguments? (char ')' :: rest) = some ([], rest) := by
  rw [readArguments?]
  split
  · simp [Text.after?]
  · rename_i hcomma
    exact absurd hcomma (by simp [Text.after?, String.toText, Text.ofChars])

lemma readArguments?_comma (value rest : Text) :
    readArguments? (", ".toText ++ (Literal.write value ++ rest))
      = (readArguments? rest).map fun (arguments, tail) => (value :: arguments, tail) := by
  have hcomma := Text.after?_eq_some_iff.mpr
    (rfl : ", ".toText ++ (Literal.write value ++ rest) = _)
  have hread := Literal.read?_write_append value rest
  rw [readArguments?]
  split
  · rename_i hnone
    exact absurd (hcomma.symm.trans hnone) (by simp)
  · rename_i behind hsome
    obtain rfl := Option.some.inj (hcomma.symm.trans hsome)
    split
    · rename_i hnone
      exact absurd (hread.symm.trans hnone) (by simp)
    · rename_i argument tail hsome
      obtain ⟨rfl, rfl⟩ := Prod.mk.inj (Option.some.inj (hread.symm.trans hsome))
      rfl

/-- **Arguments are read back**, however many there are and whatever they hold. -/
lemma readArguments?_append (arguments : List Text) (rest : Text) :
    readArguments? (arguments.flatMap (fun value => ", ".toText ++ Literal.write value)
        ++ char ')' :: rest)
      = some (arguments, rest) := by
  induction arguments with
  | nil => exact readArguments?_close rest
  | cons value arguments ih =>
      rw [List.flatMap_cons, List.append_assoc, List.append_assoc, readArguments?_comma, ih]
      rfl

/-- A joined list has the separator in front of each text but the first. -/
lemma intercalate_cons (separator first : Text) (rest : List Text) :
    separator.intercalate (first :: rest) = first ++ rest.flatMap (separator ++ ·) := by
  induction rest generalizing first with
  | nil => simp
  | cons second rest ih => simp [List.intercalate_cons_cons, ih]

lemma write_eq (assertion : Assertion) :
    assertion.write = ".should(".toText ++ (Literal.write assertion.property
      ++ (assertion.arguments.flatMap (fun value => ", ".toText ++ Literal.write value)
        ++ [char ')'])) := by
  unfold write
  rw [List.map_cons, intercalate_cons, List.flatMap_map, List.append_assoc, List.append_assoc]

/-- **A written assertion is read back**, and the text behind it is left as it is. -/
lemma read?_write_append (assertion : Assertion) (rest : Text) :
    read? (assertion.write ++ rest) = some (assertion, rest) := by
  have hshould : ∀ behind : Text,
      Text.after? ".should(".toText (".should(".toText ++ behind) = some behind :=
    fun behind => Text.after?_eq_some_iff.mpr rfl
  simp only [write_eq, List.append_assoc, List.singleton_append, read?, hshould,
    Option.bind_some, Literal.read?_write_append, readArguments?_append, Option.map_some]

lemma write_injective : Function.Injective write := by
  intro first second h
  have hfirst := read?_write_append first []
  rw [h, read?_write_append] at hfirst
  exact (Prod.mk.inj (Option.some.inj hfirst)).1.symm

end Assertion

/-- **An assertion on a chain** is the chain, and behind it the assertion with its values. -/
lemma Command.render_should (chain : Snippet) (property : Wording) (arguments : List Wording)
    (values : List Text) :
    (should chain property arguments).render values
      = chain.render values
        ++ Assertion.write ⟨property.fill values, arguments.map (Wording.fill values)⟩ := by
  rw [Assertion.write_eq, List.flatMap_map]
  simp [should, Snippet.render, Piece.render, code, List.flatMap_assoc, String.toText, Text.ofChars]

/-- **Assertions can be read back.**

    * A literal is written by two replacements in turn.  Whatever it says and whatever follows it, a
      reader takes exactly the literal, and gets what it says.
    * Behind its chain, an assertion is read back with its property and all its arguments, whatever
      follows it.
    * So no two assertions on a chain are the same text. -/
theorem assertions_read_back :
    (∀ value : Text, Literal.write value
        = char '\'' :: Text.replaceEach Literal.shieldQuote
            (Text.replaceEach Literal.doubleBackslash value) ++ [char '\''])
      ∧ (∀ value rest : Text, Literal.read? (Literal.write value ++ rest) = some (value, rest))
      ∧ (∀ (chain : Snippet) (property : Wording) (arguments : List Wording) (values : List Text)
          (rest : Text), ∃ text,
            (Command.should chain property arguments).render values
                = chain.render values ++ text
              ∧ Assertion.read? (text ++ rest)
                = some (⟨property.fill values, arguments.map (Wording.fill values)⟩, rest))
      ∧ ∀ (chain : Snippet) (values : List Text),
          Function.Injective fun assertion : Assertion =>
            (Command.should chain (.fixed assertion.property)
              (assertion.arguments.map .fixed)).render values := by
  refine ⟨?_, Literal.read?_write_append, ?_, ?_⟩
  · intro value
    rw [Literal.write, Literal.body_eq_replaceEach]
  · intro chain property arguments values rest
    exact ⟨_, Command.render_should chain property arguments values,
      Assertion.read?_write_append _ rest⟩
  · intro chain values first second h
    have hfill : ∀ arguments : List Text,
        (arguments.map Wording.fixed).map (Wording.fill values) = arguments := by
      intro arguments
      simp [Function.comp_def, Wording.fill]
    simp only [Command.render_should, hfill] at h
    exact Assertion.write_injective (List.append_cancel_left h)

end ScenarioScript
