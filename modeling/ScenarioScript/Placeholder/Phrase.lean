import ScenarioScript.Text

/-!
# Phrases with slots, and templates that show them

The argument of a placeholder is a phrase: fixed words with slots between them, such as
`type … into …`.  A slot takes one or more letters other than a line feed.  Where the words leave a
choice, the first slot takes as much as it can, then the second, and so on.

A template shows how a phrase is written: a text with markers in it, such as
`type [css_name] into [text]`.  A marker is an opening bracket, one or more letters other than a
closing bracket, and the first closing bracket behind them.  Whatever else stands in a template
stands for itself.

**Main definitions.**

* `Phrase.captures?` finds what the slots of a phrase take in an argument.
* `Template.items` splits a template into letters and markers.
* `Template.slotCount` counts the markers.
* `Template.fill?` puts values in place of the markers.
-/

namespace ScenarioScript

/-! ## Phrases -/

/-- **A slot** of a phrase and the fixed words behind it. -/
structure Slot where
  /-- The fixed words between this slot and the next one, or the end. -/
  tail : Text
deriving Repr, DecidableEq

/-- **A phrase**: fixed words, then slots with the fixed words behind each. -/
structure Phrase where
  /-- The fixed words in front of the first slot. -/
  lead : Text
  slots : List Slot
deriving Repr, DecidableEq

namespace Phrase

/-- **The longest group that lets the rest match.** A group has at least one character and no line
    feed; longer groups are tried before shorter ones. -/
def longest {α : Type} (rest? : Text → Option α) : Text → Option (Text × α)
  | [] => none
  | c :: text =>
    if c = char '\n' then none
    else
      match longest rest? text with
      | some (group, found) => some (c :: group, found)
      | none => (rest? text).map fun found => ([c], found)

/-- What slots take in a text that they have to fill completely. -/
def slotCaptures? : List Slot → Text → Option (List Text)
  | [], text => if text.isEmpty then some [] else none
  | slot :: slots, text =>
    (longest (fun rest => (Text.after? slot.tail rest).bind (slotCaptures? slots)) text).map
      fun (group, groups) => group :: groups

/-- **What the slots of a phrase take** in an argument, or `none` if the argument is not of this
    form. -/
def captures? (phrase : Phrase) (argument : Text) : Option (List Text) :=
  (Text.after? phrase.lead argument).bind (slotCaptures? phrase.slots)

end Phrase

/-! ## Templates -/

namespace Template

/-- **An item of a template.** -/
inductive Item where
  /-- A character that stands for itself. -/
  | char (c : Letter)
  | marker
deriving Repr, DecidableEq

/-- The length of the marker that starts a text, if one does. -/
def markerLength? : Text → Option Nat
  | [] => none
  | c :: rest =>
    if c = char '[' then
      match rest.idxOf? (char ']') with
      | some (inner + 1) => some (inner + 3)
      | _ => none
    else none

/-- The items of a text; the first `skip` characters belong to a marker in front of it. -/
def itemsFrom : (skip : Nat) → Text → List Item
  | _, [] => []
  | skip + 1, _ :: rest => itemsFrom skip rest
  | 0, c :: rest =>
    match markerLength? (c :: rest) with
    | some length => .marker :: itemsFrom (length - 1) rest
    | none => .char c :: itemsFrom 0 rest

/-- **The items of a template**, from left to right. -/
def items (template : Text) : List Item :=
  itemsFrom 0 template

/-- **The number of markers.** -/
def slotCount (template : Text) : Nat :=
  (items template).count .marker

/-- Items with values in place of the markers. -/
def fillItems? : List Item → List Text → Option Text
  | [], _ => some []
  | .char c :: items, values => (fillItems? items values).map (c :: ·)
  | .marker :: _, [] => none
  | .marker :: items, value :: values => (fillItems? items values).map (value ++ ·)

/-- **A template with values in place of the markers**, in order.  Values beyond the last marker are
    ignored; with fewer values than markers there is no such text. -/
def fill? (template : Text) (values : List Text) : Option Text :=
  fillItems? (items template) values

end Template

end ScenarioScript
