import ScenarioScript.Placeholder.Family
import ScenarioScript.Script.Command

/-!
# The placeholders that statements may use

Every family with its forms, in resolution order.

**Main definitions.**

* `Family.ofTag` is the family of a tag, and `registry` lists all families.
* `familyOf?` is the family of a complete token.
* `templates` lists the templates of all forms.
-/

namespace ScenarioScript

/-! ## Writing the table -/

namespace Registry

/-- A slot at the end of a phrase. -/
def slot : Slot :=
  ⟨[]⟩

/-- A slot and the words behind it. -/
def slotThen (tail : String) : Slot :=
  ⟨tail.toText⟩

/-- A phrase from its first words and its slots. -/
def phrase (lead : String) (slots : List Slot) : Phrase :=
  ⟨lead.toText, slots⟩

/-- A literal that says the value of a slot with fixed text around it. -/
def around (before : String) (index : Nat) (after : String) : Wording :=
  .value before.toText index after.toText

/-- A literal that always says the same. -/
def fixed (text : String) : Wording :=
  .fixed text.toText

open Command in
/-- An assertion about the element that the first slot selects. -/
def shouldBe (property : String) (arguments : List Wording) : Snippet :=
  should (get (.only 0)) (fixed property) arguments

end Registry

/-! ## The families -/

open Command Registry in
/-- **The family of a tag.** -/
def Family.ofTag : Tag → Family
  | .finish => ⟨.finish, "Null marker; renders to nothing".toText,
    [{ phrase := phrase "end" [], template := "end".toText, code := [] }]⟩
  | .visit => ⟨.visit, "Navigate to a URL".toText,
    [{ phrase := phrase "url " [slot], template := "url [url]".toText, code := visit (.only 0) }]⟩
  | .input => ⟨.input, "Type into an input located by class".toText,
    [{ phrase := phrase "" [slotThen " value ", slot],
       template := "[selector] value [value]".toText,
       code := typeText (get (around "input." 0 "")) (.only 1) }]⟩
  | .click => ⟨.click, "Click any selector".toText,
    [{ phrase := phrase "" [slot], template := "[selector]".toText,
       code := click (get (.only 0)) }]⟩
  | .button => ⟨.button, "Submit and cancel buttons".toText,
    [{ phrase := phrase "submit " [slot], template := "submit [selector]".toText,
       code := click (get (around "button[type=\"submit\"]." 0 "")) },
     { phrase := phrase "cancel " [slot], template := "cancel [selector]".toText,
       code := click (get (around "button[type=\"button\"]." 0 "")) }]⟩
  | .guard => ⟨.guard, "Conditional guards; open a scope in when/then lists".toText,
    [{ phrase := phrase "" [slotThen " exists"], template := "[selector] exists".toText,
       code := shouldBe "exist" [] },
     { phrase := phrase "" [slotThen " does not exist"],
       template := "[selector] does not exist".toText, code := shouldBe "not.exist" [] },
     { phrase := phrase "" [slotThen " is visible"], template := "[selector] is visible".toText,
       code := shouldBe "be.visible" [] },
     { phrase := phrase "" [slotThen " is hidden"], template := "[selector] is hidden".toText,
       code := shouldBe "not.be.visible" [] },
     { phrase := phrase "" [slotThen " is enabled"], template := "[selector] is enabled".toText,
       code := shouldBe "not.be.disabled" [] },
     { phrase := phrase "" [slotThen " is disabled"], template := "[selector] is disabled".toText,
       code := shouldBe "be.disabled" [] },
     { phrase := phrase "" [slotThen " has ", slotThen " as ", slot],
       template := "[selector] has [css_property] as [css_value]".toText,
       code := shouldBe "have.css" [.only 1, .only 2] },
     { phrase := phrase "" [slotThen " has ", slotThen " attribute with value ", slot],
       template := "[selector] has [attribute] attribute with value [value]".toText,
       code := shouldBe "have.attr" [.only 1, .only 2] },
     { phrase := phrase "" [slotThen " has class ", slot],
       template := "[selector] has class [selector]".toText,
       code := shouldBe "have.class" [.only 1] }]⟩
  | .selector => ⟨.selector, "Locate elements by text or name".toText,
    [{ phrase := phrase "button " [slot], template := "button [text]".toText,
       code := contains (get (fixed "button")) (.only 0) },
     { phrase := phrase "hyperlink " [slot], template := "hyperlink [text]".toText,
       code := contains (get (fixed "a")) (.only 0) },
     { phrase := phrase "input " [slot], template := "input [name]".toText,
       code := get (around "input[name=\"" 0 "\"]") }]⟩
  | .element => ⟨.element, "Structural elements by css class".toText,
    [{ phrase := phrase "table " [slot], template := "table [css_name]".toText,
       code := get (around "table." 0 "") },
     { phrase := phrase "list " [slot], template := "list [css_name]".toText,
       code := get (around "ul." 0 "") },
     { phrase := phrase "list_item " [slot], template := "list_item [css_name]".toText,
       code := get (around "li." 0 "") }]⟩
  | .action => ⟨.action, "User actions on a selector".toText,
    [{ phrase := phrase "type " [slotThen " into ", slot],
       template := "type [css_name] into [text]".toText,
       code := typeText (get (.only 1)) (.only 0) },
     { phrase := phrase "select " [slotThen " from ", slot],
       template := "select [css_name] from [text]".toText,
       code := select (get (.only 1)) (.only 0) },
     { phrase := phrase "check " [slot], template := "check [css_name]".toText,
       code := check (get (.only 0)) },
     { phrase := phrase "uncheck " [slot], template := "uncheck [css_name]".toText,
       code := uncheck (get (.only 0)) }]⟩
  | .assertion => ⟨.assertion, "Assertions on text and checkbox state".toText,
    [{ phrase := phrase "" [slotThen " has text ", slot],
       template := "[css_name] has text [text]".toText, code := shouldBe "contain.text" [.only 1] },
     { phrase := phrase "" [slotThen " is checked"], template := "[css_name] is checked".toText,
       code := shouldBe "be.checked" [] },
     { phrase := phrase "" [slotThen " is unchecked"], template := "[css_name] is unchecked".toText,
       code := shouldBe "not.be.checked" [] }]⟩
  | .alert => ⟨.alert, "Browser alert text".toText,
    [{ phrase := phrase "contains text " [slot], template := "contains text [text]".toText,
       code := onAlertEquals (.only 0) }]⟩

/-- **All families**, in resolution order. -/
def registry : List Family :=
  Tag.all.map Family.ofTag

/-- The family of a tag carries that tag. -/
@[simp] theorem Family.tag_ofTag (tag : Tag) : (Family.ofTag tag).tag = tag := by
  cases tag <;> rfl

/-- **The family of a complete token**: the first whose shape the token has. -/
def familyOf? (token : Text) : Option Family :=
  registry.find? fun family => family.shape.accepts token

/-- The family of a token is one of the registry. -/
theorem mem_registry_of_familyOf? {token : Text} {family : Family}
    (h : familyOf? token = some family) : family ∈ registry :=
  List.mem_of_find?_eq_some h

/-- The family of a token has the token's shape. -/
theorem accepts_of_familyOf? {token : Text} {family : Family}
    (h : familyOf? token = some family) : family.shape.accepts token = true := by
  have found := List.find?_eq_some_iff_append.mp h
  exact found.1

/-- **The templates of all forms**, family by family. -/
def templates : List Text :=
  registry.flatMap Family.templates

end ScenarioScript
