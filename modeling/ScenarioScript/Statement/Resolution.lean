import ScenarioScript.Placeholder.Registry

/-!
# Resolving the placeholders of a statement

A statement is resolved family by family.  Each family is looked for in the raw statement, from
left to right.  A placeholder that overlaps one already replaced is passed over; one that no form
accepts stays and is reported; every other is replaced by its code.  Because all offsets are those
of the raw statement, generated code never changes where another placeholder ends.

**Main definitions.**

* `Unresolved` reports a placeholder that no form accepts.
* `Scan` is what has been replaced and reported so far, `Scan.visit` the treatment of one
  placeholder, `Scan.run` the scan of a statement.
* `Scan.assemble` writes the statement with its replacements.
* `resolveWith` resolves with a given list of families, `resolve` with all of them.
-/

namespace ScenarioScript

/-- **A placeholder that stays in the text** because no form of its family accepts its argument. -/
structure Unresolved where
  family : Tag
  text : Text
  statement : Text
deriving Repr, DecidableEq

/-- **A resolved statement**: its text, and the placeholders that are left in it. -/
structure Resolution where
  text : Text
  /-- What could not be replaced, in the order in which it was found. -/
  unresolved : List Unresolved
deriving Repr, DecidableEq

/-- Nothing is left unresolved. -/
def Resolution.isComplete (resolution : Resolution) : Bool :=
  resolution.unresolved.isEmpty

/-- **A replacement** of the characters from `start` up to, but not including, `stop`. -/
structure Splice where
  /-- Offset of the first character that is replaced. -/
  start : Nat
  /-- Offset of the first character behind it that is kept. -/
  stop : Nat
  code : Text
deriving Repr, DecidableEq

/-- Puts a splice in front of the first one that starts later. -/
def Splice.insert (splice : Splice) : List Splice → List Splice
  | [] => [splice]
  | other :: rest =>
    if splice.start < other.start then splice :: other :: rest else other :: splice.insert rest

/-- **The state of a scan.** -/
structure Scan where
  /-- The replacements so far, from left to right. -/
  splices : List Splice := []
  /-- The reports so far, in the order in which they were made. -/
  unresolved : List Unresolved := []
deriving Repr, DecidableEq

namespace Scan

/-- **One placeholder of a family** is passed over, reported or replaced. -/
def visit (statement : Text) (family : Family) (scan : Scan) (o : Occurrence) : Scan :=
  if scan.splices.any fun splice => o.overlaps splice.start splice.stop then scan
  else
    match family.render? o.argument with
    | none =>
      { scan with unresolved :=
          scan.unresolved ++ [⟨family.tag, family.shape.token o.argument, statement⟩] }
    | some code => { scan with splices := Splice.insert ⟨o.start, o.stop, code⟩ scan.splices }

def visitFamily (statement : Text) (scan : Scan) (family : Family) : Scan :=
  (family.shape.occurrences statement).foldl (visit statement family) scan

/-- **The scan of a statement**, family by family. -/
def run (families : List Family) (statement : Text) : Scan :=
  families.foldl (visitFamily statement) {}

/-- **The statement with its replacements.** `position` is the offset at which `rest` stands in the
    statement; the splices are ordered and lie behind it. -/
def assemble : (position : Nat) → (rest : Text) → List Splice → Text
  | _, rest, [] => rest
  | position, rest, splice :: splices =>
    rest.take (splice.start - position) ++ splice.code
      ++ assemble splice.stop (rest.drop (splice.stop - position)) splices

end Scan

/-- **Resolving with a list of families**, in the order of the list. -/
def resolveWith (families : List Family) (statement : Text) : Resolution :=
  let scan := Scan.run families statement
  ⟨Scan.assemble 0 statement scan.splices, scan.unresolved⟩

/-- **Resolving with all families.** -/
def resolve (statement : Text) : Resolution :=
  resolveWith registry statement

end ScenarioScript
