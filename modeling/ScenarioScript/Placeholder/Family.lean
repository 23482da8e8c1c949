import ScenarioScript.Placeholder.Phrase
import ScenarioScript.Placeholder.Shape
import ScenarioScript.Placeholder.Tag
import ScenarioScript.Script.Snippet

/-!
# Families and their forms

A family of placeholders has one outer shape and several forms of argument.  A form couples a
phrase with the snippet that is generated from what the slots of the phrase take, and with the
template that shows users how to write it.  The forms are tried in order, and the first one whose
phrase fits decides.

**Main definitions.**

* `Form.render?` generates the code for an argument.
* `Tag.shape` is the shape of the placeholders of a family.
* `Family.form?` is the first form that accepts an argument, `Family.render?` its code.
* `Family.template` shows a form as a placeholder with markers in it, `Family.example?` with values
  in place of the markers.
-/

namespace ScenarioScript

/-- **A form of argument**: a phrase, how it is shown, and the snippet for it.  The snippet asks for
    no value that the phrase does not have. -/
structure Form where
  phrase : Phrase
  /-- The argument with a marker in each slot. -/
  template : Text
  /-- The code, with a value for each slot. -/
  code : Snippet
  /-- Every value in the code is that of a slot. -/
  covered : code.usesBelow phrase.slots.length = true := by rfl
deriving Repr

namespace Form

def accepts (form : Form) (argument : Text) : Bool :=
  (form.phrase.captures? argument).isSome

/-- **The code for an argument** of this form. -/
def render? (form : Form) (argument : Text) : Option Text :=
  (form.phrase.captures? argument).map form.code.render

/-- The number of values that the template of the form asks for. -/
def slotCount (form : Form) : Nat :=
  Template.slotCount form.template

end Form

/-- **The shape of a family's placeholders**: the null marker is a single placeholder, all other
    families have the tag and an underscore in front of the argument. -/
def Tag.shape : Tag → Shape
  | .finish => .exactly Tag.finish.word
  | tag => .leading (tag.word ++ [char '_'])

/-- **A family of placeholders.** -/
structure Family where
  tag : Tag
  description : Text
  /-- The forms of argument, in the order in which they are tried. -/
  forms : List Form
deriving Repr

namespace Family

/-- The outer shape of the family's placeholders. -/
def shape (family : Family) : Shape :=
  family.tag.shape

/-- **The first form that accepts an argument.** -/
def form? (family : Family) (argument : Text) : Option Form :=
  family.forms.find? (·.accepts argument)

/-- **The code for an argument**: that of the first form that accepts it. -/
def render? (family : Family) (argument : Text) : Option Text :=
  (family.form? argument).bind (·.render? argument)

/-- **The template of a form**: a placeholder with markers in it. -/
def template (family : Family) (form : Form) : Text :=
  family.shape.token form.template

/-- The templates of a family, in the order of its forms. -/
def templates (family : Family) : List Text :=
  family.forms.map family.template

/-- **An example of a form**: its template with values in place of the markers. -/
def example? (family : Family) (form : Form) (values : List Text) : Option Text :=
  Template.fill? (family.template form) values

end Family

end ScenarioScript
