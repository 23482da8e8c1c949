import ScenarioScript.Suggestion

/-!
# Which statements are accepted

A statement is accepted if every token `<…>` in it has the shape of some family.  Whether a form
accepts the argument is not asked here: resolution reports that.

**Main definitions.**

* `tokens` finds the tokens of a statement, `invalidTokens` those that belong to no family.
* `SyntaxFault` is the reason for a refusal.
* `check` collects all faults of a statement; `validate` stops at the first one, and `validateAll`
  at the first one in a list of statements.
-/

namespace ScenarioScript

/-- **A token that belongs to no family**, with the statement around it and what may have been
    meant. -/
structure SyntaxFault where
  statement : Text
  token : Text
  suggestion : Option Suggestion
deriving Repr, DecidableEq

namespace SyntaxFault

/-- **The wording for a refused statement.** -/
def message (fault : SyntaxFault) : Text :=
  match fault.suggestion with
  | some suggestion =>
    "Invalid syntax found in statement: \"".toText ++ fault.statement
      ++ "\". Did you mean: \"".toText ++ suggestion.template ++ "\"?".toText
  | none => "Invalid placeholder found in statement: \"".toText ++ fault.statement ++ [char '"']

/-- **The wording for one token** in a list of faults. -/
def tokenMessage (fault : SyntaxFault) : Text :=
  "Unrecognised placeholder ".toText ++ fault.token

end SyntaxFault

/-- **The tokens of a statement**, from left to right. -/
def tokens (statement : Text) : List Text :=
  (Shape.any.occurrences statement).map fun o => Shape.any.token o.argument

/-- Whether no family has placeholders of this shape. -/
def isInvalidToken (token : Text) : Bool :=
  (familyOf? token).isNone

/-- **The tokens that belong to no family.** -/
def invalidTokens (statement : Text) : List Text :=
  (tokens statement).filter isInvalidToken

namespace Suggester

/-- **All faults of a statement**, one for each invalid token; none if the statement is accepted. -/
def check (suggester : Suggester) (statement : Text) : List SyntaxFault :=
  let suggestion := suggester.closest? statement
  (invalidTokens statement).map fun token => ⟨statement, token, suggestion⟩

/-- **Accepts a statement or gives its first fault.** -/
def validate (suggester : Suggester) (statement : Text) : Except SyntaxFault Unit :=
  match (tokens statement).find? isInvalidToken with
  | none => .ok ()
  | some token => .error ⟨statement, token, suggester.closest? statement⟩

/-- **Accepts a list of statements or gives the first fault of the first one that has any.** -/
def validateAll (suggester : Suggester) : List Text → Except SyntaxFault Unit
  | [] => .ok ()
  | statement :: rest =>
    match suggester.validate statement with
    | .error fault => .error fault
    | .ok () => suggester.validateAll rest

end Suggester

end ScenarioScript
