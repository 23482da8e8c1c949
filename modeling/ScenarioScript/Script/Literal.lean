import ScenarioScript.Text

/-!
# String literals of generated scripts

A generated script quotes every text between single quotes.  A quote or a backslash inside the text
gets a backslash in front, so the literal ends at its own closing quote whatever the text holds.

**Main definitions.**

* `Literal.write` writes a literal.
* `Literal.read?` reads one back from the start of a text.

**Main statement.** `Literal.read?_write_append`: what is written is read back, and nothing after
it is touched.
-/

namespace ScenarioScript

namespace Literal

/-- The writing of one character inside a literal. -/
def escape (c : Letter) : Text :=
  if c = char '\\' || c = char '\'' then [char '\\', c] else [c]

/-- The inside of a literal, without its quotes. -/
def body (value : Text) : Text :=
  value.flatMap escape

/-- **A literal** for a text. -/
def write (value : Text) : Text :=
  char '\'' :: body value ++ [char '\'']

/-- **Reading the inside of a literal** up to its closing quote: a backslash makes the next
    character content, and a bare quote ends the literal.  The result is the content and what
    follows the quote. -/
def readBody? : Text → Option (Text × Text)
  | [] => none
  | char '\\' :: c :: rest => (readBody? rest).map fun (value, tail) => (c :: value, tail)
  | c :: rest =>
    if c = char '\'' then some ([], rest)
    else if c = char '\\' then none
    else (readBody? rest).map fun (value, tail) => (c :: value, tail)

/-- **Reading a literal** from the start of a text. -/
def read? : Text → Option (Text × Text)
  | [] => none
  | c :: rest => if c = char '\'' then readBody? rest else none

theorem readBody?_body_append (value rest : Text) :
    readBody? (body value ++ char '\'' :: rest) = some (value, rest) := by
  induction value with
  | nil => simp [body, readBody?]
  | cons c value ih =>
    have ih' : readBody? (value.flatMap escape ++ char '\'' :: rest) = some (value, rest) := ih
    by_cases hb : c = char '\\'
    · subst hb
      simp [body, escape, readBody?, ih']
    · by_cases hq : c = char '\''
      · subst hq
        simp [body, escape, readBody?, ih']
      · simp [body, escape, hb, hq, readBody?, ih']

/-- **A written literal is read back**, and the text after it is left as it is. -/
theorem read?_write_append (value rest : Text) :
    read? (write value ++ rest) = some (value, rest) := by
  simp [read?, write, readBody?_body_append]

end Literal

end ScenarioScript
