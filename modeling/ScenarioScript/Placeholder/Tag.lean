import ScenarioScript.Text

/-!
# Families of placeholders

A placeholder is written `<tag_argument>`.  Its tag says which family it belongs to.

**Main definitions.**

* `Tag` lists the families in the order in which statements are resolved.
* `Tag.word` is the word that placeholders of the family start with.
* `Tag.ofWord?` finds the tag of a word.
-/

namespace ScenarioScript

/-- **The families of placeholders.** -/
inductive Tag where
  /-- The null marker `<end>`, which stands for nothing. -/
  | finish
  | visit
  | input
  | click
  | button
  | guard
  | selector
  | element
  | action
  | assertion
  | alert
deriving Repr, DecidableEq

namespace Tag

/-- **All tags**, in resolution order. -/
def all : List Tag :=
  [.finish, .visit, .input, .click, .button, .guard, .selector, .element, .action, .assertion,
    .alert]

/-- **The word of a tag.** -/
def word : Tag → Text
  | .finish => "end".toText
  | .visit => "visit".toText
  | .input => "input".toText
  | .click => "click".toText
  | .button => "button".toText
  | .guard => "if".toText
  | .selector => "selector".toText
  | .element => "element".toText
  | .action => "action".toText
  | .assertion => "assert".toText
  | .alert => "alert".toText

def ofWord? (w : Text) : Option Tag :=
  all.find? fun tag => tag.word == w

theorem mem_all (tag : Tag) : tag ∈ all := by
  cases tag <;> decide

/-- Every tag is found by its word. -/
theorem ofWord?_word (tag : Tag) : ofWord? tag.word = some tag := by
  cases tag <;> decide

end Tag

end ScenarioScript
