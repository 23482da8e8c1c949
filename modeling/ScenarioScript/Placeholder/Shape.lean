import ScenarioScript.Text

/-!
# Where placeholders stand in a text

The outer shape of a placeholder is `<`, a fixed lead, an argument and `>`.  The argument has at
least one character and no line feed, but it may hold `<` and `>`: its end is the first `>` after
which no other `>` comes before the next `<` or the end of the text.  So `ul > li` is one argument,
and several placeholders can stand on one line.

**Main definitions.**

* `Shape.argument?` reads a complete token.
* `Shape.argumentAt?` reads the placeholder that starts a text.
* `Shape.candidates` lists the placeholders of a text, one for each place where one starts.
* `Shape.search` is the first candidate from a position on.
* `Shape.occurrences` are the candidates that a scan from left to right meets when it continues
  behind each one it has met.
-/

namespace ScenarioScript

/-- **The outer shape of a family of placeholders.** -/
inductive Shape where
  /-- Only the one placeholder `<word>`; its argument is the word. -/
  | exactly (word : Text)
  /-- All placeholders `<lead…>` with an argument after the lead. -/
  | leading (lead : Text)
deriving Repr, DecidableEq

/-- **A placeholder in a text**: the offsets of its first character and of the character after its
    last one, and its argument. -/
structure Occurrence where
  /-- Offset of the opening bracket. -/
  start : Nat
  /-- Offset of what follows the closing bracket. -/
  stop : Nat
  /-- What stands between lead and closing bracket. -/
  argument : Text
deriving Repr, DecidableEq

/-- Two placeholders share a character of the text. -/
def Occurrence.overlaps (o : Occurrence) (start stop : Nat) : Bool :=
  o.start < stop && start < o.stop

namespace Shape

/-! ## Tokens -/

/-- What a placeholder of this shape has in front of its argument. -/
def opening : Shape → Text
  | .exactly _ => [char '<']
  | .leading lead => char '<' :: lead

/-- **The placeholder** with a given argument. -/
def token (shape : Shape) (argument : Text) : Text :=
  shape.opening ++ argument ++ [char '>']

/-- A text that may be an argument: not empty and without line feed. -/
def isArgument (text : Text) : Bool :=
  !text.isEmpty && !text.contains (char '\n')

/-- The argument in front of the bracket that ends a text. -/
def closedArgument? (text : Text) : Option Text :=
  if text.getLast? = some (char '>') && isArgument text.dropLast then some text.dropLast else none

/-- **The argument of a complete token**, or `none` if the token does not have this shape. -/
def argument? (shape : Shape) (token : Text) : Option Text :=
  match shape with
  | .exactly word => if token = char '<' :: word ++ [char '>'] then some word else none
  | .leading lead => (Text.after? (char '<' :: lead) token).bind closedArgument?

/-- Whether a complete token has this shape. -/
def accepts (shape : Shape) (token : Text) : Bool :=
  (shape.argument? token).isSome

/-! ## Placeholders inside a text -/

/-- **The look ahead behind a closing bracket**: the next bracket, if there is one, is an opening
    one. -/
def isClear : Text → Bool
  | [] => true
  | c :: rest => if c = char '<' then true else if c = char '>' then false else isClear rest

/-- The shortest argument that ends at a bracket with a clear look ahead; it may be empty. -/
def readArgument? : Text → Option Text
  | [] => none
  | c :: rest =>
    if c = char '>' && isClear rest then some []
    else if c = char '\n' then none
    else (readArgument? rest).map (c :: ·)

/-- **The argument at the start of a text**, its first character whatever it is. -/
def readArgumentOne? : Text → Option Text
  | [] => none
  | c :: rest => if c = char '\n' then none else (readArgument? rest).map (c :: ·)

/-- **The argument of the placeholder that starts a text**, if one of this shape does. -/
def argumentAt? (shape : Shape) (text : Text) : Option Text :=
  match shape with
  | .exactly word => (Text.after? (char '<' :: word ++ [char '>']) text).map fun _ => word
  | .leading lead => (Text.after? (char '<' :: lead) text).bind readArgumentOne?

/-- The candidates of a text that stands at offset `start`. -/
def candidatesFrom (shape : Shape) : (start : Nat) → Text → List Occurrence
  | _, [] => []
  | start, c :: rest =>
    match shape.argumentAt? (c :: rest) with
    | some argument =>
      ⟨start, start + (shape.token argument).length, argument⟩
        :: shape.candidatesFrom (start + 1) rest
    | none => shape.candidatesFrom (start + 1) rest

/-- **The candidates**: every place of a text where a placeholder of this shape starts, from left
    to right.  They may overlap. -/
def candidates (shape : Shape) (text : Text) : List Occurrence :=
  shape.candidatesFrom 0 text

/-- **Search**: the first placeholder that starts at a position or after it.  A negative position
    counts as the start of the text. -/
def search (shape : Shape) (text : Text) (position : Int) : Option Occurrence :=
  (shape.candidates text).find? fun o => position ≤ o.start

/-- **A sweep** keeps an occurrence only if it starts at the cursor or behind it, and then moves
    the cursor behind the occurrence. -/
def sweep : (cursor : Nat) → List Occurrence → List Occurrence
  | _, [] => []
  | cursor, o :: rest => if o.start < cursor then sweep cursor rest else o :: sweep o.stop rest

/-- **The occurrences** of a text: what a scan from left to right finds. -/
def occurrences (shape : Shape) (text : Text) : List Occurrence :=
  sweep 0 (shape.candidates text)

/-- **The shape of any placeholder**, whatever its family. -/
def any : Shape :=
  .leading []

end Shape

end ScenarioScript
