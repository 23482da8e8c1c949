import ScenarioScript.Script.Snippet

/-!
# Cypress commands

The commands of the Cypress test runner that scripts are made of, each as a snippet.  A command on
an element continues the chain that found the element.

**Main definitions.**

* `Command.visit` and `Command.get` start a chain.
* `Command.contains`, `Command.click`, `Command.typeText`, `Command.select`, `Command.check`,
  `Command.uncheck` and `Command.should` continue one.
* `Command.onAlertEquals` waits for an alert.
* `Command.describeOpen`, `Command.itOpen`, `Command.callbackClose`, `Command.ifOpen` and
  `Command.ifClose` are the lines around blocks.
-/

namespace ScenarioScript

namespace Command

def code (text : String) : Piece :=
  .code text.toText

/-- **The line at the head of a script** that tells an editor where the types are. -/
def referenceDirective : Text :=
  "/// <reference types=\"cypress\" />".toText

/-! ## Chains -/

def visit (url : Wording) : Snippet :=
  [code "cy.visit(", .literal url, code ")"]

def get (selector : Wording) : Snippet :=
  [code "cy.get(", .literal selector, code ")"]

/-- Narrows a chain to the element with a text. -/
def contains (chain : Snippet) (text : Wording) : Snippet :=
  chain ++ [code ".contains(", .literal text, code ")"]

def click (chain : Snippet) : Snippet :=
  chain ++ [code ".click()"]

def typeText (chain : Snippet) (text : Wording) : Snippet :=
  chain ++ [code ".type(", .literal text, code ")"]

def select (chain : Snippet) (value : Wording) : Snippet :=
  chain ++ [code ".select(", .literal value, code ")"]

def check (chain : Snippet) : Snippet :=
  chain ++ [code ".check()"]

def uncheck (chain : Snippet) : Snippet :=
  chain ++ [code ".uncheck()"]

/-- **An assertion**: the name of a property, then its arguments, separated by commas. -/
def should (chain : Snippet) (property : Wording) (arguments : List Wording) : Snippet :=
  chain ++ code ".should(" :: .literal property
    :: arguments.flatMap (fun argument => [code ", ", .literal argument]) ++ [code ")"]

/-- **Expects an alert** with exactly this text. -/
def onAlertEquals (text : Wording) : Snippet :=
  [code "cy.on(", .literal (.fixed "window:alert".toText),
    code ", (alertText) => \x7b expect(alertText).to.equal(", .literal text, code "); \x7d);"]

/-! ## Blocks -/

/-- The first line of a block that runs under a condition. -/
def ifOpen (condition : Text) : Text :=
  "if (".toText ++ condition ++ ") \x7b".toText

/-- The last line of such a block. -/
def ifClose : Text :=
  "\x7d".toText

/-- The first line of a test suite. -/
def describeOpen (name : Text) : Snippet :=
  [code "describe(", .literal (.fixed name), code ", () => \x7b"]

/-- The first line of a test case. -/
def itOpen (title : Text) : Snippet :=
  [code "it(", .literal (.fixed title), code ", () => \x7b"]

/-- The last line of a test suite or a test case. -/
def callbackClose : Text :=
  "\x7d);".toText

end Command

end ScenarioScript
