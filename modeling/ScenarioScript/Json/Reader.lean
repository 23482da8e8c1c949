import ScenarioScript.Json
import ScenarioScript.Text.Integer

/-!
# Reading JSON

Reads one value and says precisely where a text stops being one.  Besides the standard grammar the
words `NaN`, `Infinity` and `-Infinity` are read as numbers.

**Main definitions.**

* `Json.Problem` lists what can be wrong, `Json.Fault` adds where.
* `Json.readPieces` reads the inside of a string as a sequence of letters and code units, and
  `Json.joinPieces` turns it into a text.
* `Json.readNumber?` reads a number.
* `Json.readWithin` reads a document whose integers have a bounded number of digits, `Json.read` one
  whose integers are of ordinary size.

While reading, a place is given by the number of letters from there to the end, which is known
wherever the rest of the text is; `Fault.message` turns it into line and column.
-/

namespace ScenarioScript

namespace Json

/-! ## Faults -/

/-- **What can be wrong** at a place of a document. -/
inductive Problem where
  | expectingValue
  | expectingName
  | expectingColon
  | expectingComma
  | extraData
  | unterminated
  | controlCharacter
  | badEscape
  | badUnitEscape
  | byteOrderMark
deriving Repr, DecidableEq

def Problem.message : Problem → Text
  | .expectingValue => "Expecting value".toText
  | .expectingName => "Expecting property name enclosed in double quotes".toText
  | .expectingColon => "Expecting ':' delimiter".toText
  | .expectingComma => "Expecting ',' delimiter".toText
  | .extraData => "Extra data".toText
  | .unterminated => "Unterminated string starting at".toText
  | .controlCharacter => "Invalid control character at".toText
  | .badEscape => "Invalid \\escape".toText
  | .badUnitEscape => "Invalid \\uXXXX escape".toText
  | .byteOrderMark => "Unexpected UTF-8 BOM (decode using utf-8-sig)".toText

/-- **Why a document cannot be read.** -/
inductive Fault where
  /-- A problem with `remaining` letters left. -/
  | at (problem : Problem) (remaining : Nat)
  | integer (fault : Text.IntegerFault)
deriving Repr, DecidableEq

/-- **The wording of a fault**: the problem, then line, column and offset of its place.  Lines and
    columns count from one. -/
def Fault.message (document : Text) : Fault → Text
  | .integer fault => fault.message
  | .at problem remaining =>
    let before := document.take (document.length - remaining)
    let column := (before.reverse.takeWhile (· ≠ char '\n')).length + 1
    problem.message ++ ": line ".toText ++ Text.ofNat (before.count (char '\n') + 1)
      ++ " column ".toText ++ Text.ofNat column
      ++ " (char ".toText ++ Text.ofNat before.length ++ [char ')']

/-! ## Strings -/

def hexValue? (c : Letter) : Option Nat :=
  let n := c.toNat
  if 0x30 ≤ n && n ≤ 0x39 then some (n - 0x30)
  else if 0x61 ≤ n && n ≤ 0x66 then some (n - 0x57)
  else if 0x41 ≤ n && n ≤ 0x46 then some (n - 0x37)
  else none

/-- The number that four hexadecimal digits stand for. -/
def hexUnit? (a b c d : Letter) : Option Nat :=
  match hexValue? a, hexValue? b, hexValue? c, hexValue? d with
  | some a, some b, some c, some d => some (((a * 16 + b) * 16 + c) * 16 + d)
  | _, _, _, _ => none

/-- The letter that a backslash and one letter stand for. -/
def shortEscape? (c : Letter) : Option Letter :=
  if c = char '"' || c = char '\\' || c = char '/' then some c
  else if c = char 'b' then some (char '\x08')
  else if c = char 'f' then some (char '\x0c')
  else if c = char 'n' then some (char '\n')
  else if c = char 'r' then some (char '\r')
  else if c = char 't' then some (char '\t')
  else none

/-- **A piece of a string**: a letter, or a code unit given by an escape with four digits. -/
inductive Piece where
  | letter (c : Letter)
  | unit (unit : Nat)
deriving Repr, DecidableEq

/-- **The inside of a string** up to its closing quote.  `opening` is the text from the opening
    quote on. -/
def readPieces (opening : Text) : Text → Except Fault (List Piece × Text)
  | [] => .error (.at .unterminated opening.length)
  | char '"' :: rest => .ok ([], rest)
  | [char '\\'] => .error (.at .unterminated opening.length)
  | char '\\' :: char 'u' :: a :: b :: c :: d :: rest =>
    match hexUnit? a b c d with
    | none => .error (.at .badUnitEscape (rest.length + 5))
    | some unit =>
      if rest.isEmpty then .error (.at .badUnitEscape (rest.length + 5))
      else (readPieces opening rest).map fun (pieces, tail) => (.unit unit :: pieces, tail)
  | char '\\' :: c :: rest =>
    if c = char 'u' then .error (.at .badUnitEscape (rest.length + 1))
    else
      match shortEscape? c with
      | none => .error (.at .badEscape (rest.length + 2))
      | some found =>
        (readPieces opening rest).map fun (pieces, tail) => (.letter found :: pieces, tail)
  | c :: rest =>
    if c.toNat ≤ 0x1F then .error (.at .controlCharacter (rest.length + 1))
    else (readPieces opening rest).map fun (pieces, tail) => (.letter c :: pieces, tail)

/-- **The text of a sequence of pieces**: two units that are the halves of a surrogate pair become
    one character, and any other unit is a letter by itself. -/
def joinPieces : List Piece → Text
  | [] => []
  | .letter c :: rest => c :: joinPieces rest
  | .unit high :: .unit low :: rest =>
    if isHighSurrogate high && isLowSurrogate low then
      char (Char.ofNat (0x10000 + (high - 0xD800) * 0x400 + (low - 0xDC00))) :: joinPieces rest
    else .ofNat high :: joinPieces (.unit low :: rest)
  | .unit unit :: rest => .ofNat unit :: joinPieces rest

/-! ## Numbers -/

/-- The decimal digits of numbers in a document. -/
def isDigit (c : Letter) : Bool :=
  0x30 ≤ c.toNat && c.toNat ≤ 0x39

/-- The digits before point and exponent: a single zero, or digits that do not start with one. -/
def readWhole? : Text → Option (Text × Text)
  | [] => none
  | c :: rest =>
    if c = char '0' then some ([char '0'], rest)
    else if isDigit c then some (c :: rest.takeWhile isDigit, rest.dropWhile isDigit)
    else none

/-- A point and the digits behind it; empty if the point has no digit behind it. -/
def readFraction (text : Text) : Text × Text :=
  match text with
  | char '.' :: rest =>
    if (rest.takeWhile isDigit).isEmpty then ([], text)
    else (char '.' :: rest.takeWhile isDigit, rest.dropWhile isDigit)
  | _ => ([], text)

def readExponentSign : Text → Text × Text
  | char '+' :: rest => ([char '+'], rest)
  | char '-' :: rest => ([char '-'], rest)
  | rest => ([], rest)

/-- The mark of an exponent, its sign and its digits; empty if there is no digit. -/
def readExponent (text : Text) : Text × Text :=
  match text with
  | [] => ([], [])
  | c :: rest =>
    if c = char 'e' || c = char 'E' then
      let (sign, digits) := readExponentSign rest
      if (digits.takeWhile isDigit).isEmpty then ([], text)
      else (c :: sign ++ digits.takeWhile isDigit, digits.dropWhile isDigit)
    else ([], text)

def readMinus : Text → Text × Text
  | char '-' :: rest => ([char '-'], rest)
  | rest => ([], rest)

/-- **A number** at the start of a text: its sign, its digits, what makes it a decimal, and the
    rest. -/
def readNumber? (text : Text) : Option ((Text × Text × Text) × Text) :=
  let (minus, unsigned) := readMinus text
  (readWhole? unsigned).map fun (whole, behind) =>
    let (fraction, rest) := readFraction behind
    let (exponent, rest) := readExponent rest
    ((minus, whole, fraction ++ exponent), rest)

/-- The value of a number; an integer may have at most `limit` digits. -/
def ofNumber (limit : Nat) : Text × Text × Text → Except Fault Json
  | (minus, whole, fraction) =>
    if !fraction.isEmpty then .ok (.decimal (minus ++ whole ++ fraction))
    else
      match Text.readIntegerWithin limit (minus ++ whole) with
      | .ok value => .ok (.integer value)
      | .error fault => .error (.integer fault)

/-! ## Values -/

/-- The white space of a document. -/
def isSpace (c : Letter) : Bool :=
  c = char ' ' || c = char '\t' || c = char '\n' || c = char '\r'

/-- What follows the white space at the start of a text. -/
def skipSpace (text : Text) : Text :=
  text.dropWhile isSpace

/-- **The words** that stand for values. -/
def words : List (Text × Json) :=
  [("null".toText, .null), ("true".toText, .bool true), ("false".toText, .bool false),
    ("NaN".toText, .decimal "NaN".toText), ("Infinity".toText, .decimal "Infinity".toText),
    ("-Infinity".toText, .decimal "-Infinity".toText)]

def readScalar (limit : Nat) (text : Text) : Except Fault (Json × Text) :=
  match words.findSome? fun (word, value) => (Text.after? word text).map fun rest => (value, rest)
  with
  | some found => .ok found
  | none =>
    match readNumber? text with
    | some (number, rest) => (ofNumber limit number).map fun value => (value, rest)
    | none => .error (.at .expectingValue text.length)

/-- A key and the colon behind it, with the white space after each. -/
def readKey (text : Text) : Except Fault (Text × Text) :=
  match text with
  | char '"' :: inside =>
    match readPieces text inside with
    | .error fault => .error fault
    | .ok (pieces, rest) =>
      match skipSpace rest with
      | char ':' :: rest => .ok (joinPieces pieces, skipSpace rest)
      | rest => .error (.at .expectingColon rest.length)
  | _ => .error (.at .expectingName text.length)

mutual

/-- **A value** at the start of a text.  `steps` bounds the number of steps; twice the length of the
    text is always enough, because every second step consumes a letter. -/
def readValue (limit : Nat) : (steps : Nat) → Text → Except Fault (Json × Text)
  | 0, text => .error (.at .expectingValue text.length)
  | steps + 1, text =>
    match text with
    | char '"' :: inside =>
      (readPieces text inside).map fun (pieces, rest) => (.string (joinPieces pieces), rest)
    | char '\x7b' :: inside =>
      match skipSpace inside with
      | char '\x7d' :: rest => .ok (.object [], rest)
      | rest => (readFields limit steps [] rest).map fun (fields, rest) => (.object fields, rest)
    | char '[' :: inside =>
      match skipSpace inside with
      | char ']' :: rest => .ok (.array [], rest)
      | rest => (readItems limit steps rest).map fun (items, rest) => (.array items, rest)
    | _ => readScalar limit text

/-- The items of a list up to its closing bracket. -/
def readItems (limit : Nat) : (steps : Nat) → Text → Except Fault (List Json × Text)
  | 0, text => .error (.at .expectingValue text.length)
  | steps + 1, text =>
    match readValue limit steps text with
    | .error fault => .error fault
    | .ok (item, rest) =>
      match skipSpace rest with
      | char ']' :: rest => .ok ([item], rest)
      | char ',' :: rest =>
        (readItems limit steps (skipSpace rest)).map fun (items, rest) => (item :: items, rest)
      | rest => .error (.at .expectingComma rest.length)

/-- The fields of an object up to its closing bracket, put behind those already read. -/
def readFields (limit : Nat) :
    (steps : Nat) → List (Text × Json) → Text → Except Fault (List (Text × Json) × Text)
  | 0, _, text => .error (.at .expectingValue text.length)
  | steps + 1, fields, text =>
    match readKey text with
    | .error fault => .error fault
    | .ok (key, rest) =>
      match readValue limit steps rest with
      | .error fault => .error fault
      | .ok (value, rest) =>
        match skipSpace rest with
        | char '\x7d' :: rest => .ok (Association.put key value fields, rest)
        | char ',' :: rest =>
          readFields limit steps (Association.put key value fields) (skipSpace rest)
        | rest => .error (.at .expectingComma rest.length)

end

/-- **Reading a document**: one value with nothing but white space around it.  Its integers have at
    most `limit` digits. -/
def readWithin (limit : Nat) (document : Text) : Except Fault Json :=
  if document.head? = some (char '\uFEFF') then .error (.at .byteOrderMark document.length)
  else
    match readValue limit (2 * document.length + 2) (skipSpace document) with
    | .error fault => .error fault
    | .ok (value, rest) =>
      match skipSpace rest with
      | [] => .ok value
      | rest => .error (.at .extraData rest.length)

/-- **Reading a document** with integers of ordinary size. -/
def read (document : Text) : Except Fault Json :=
  readWithin Text.maxDigits document

end Json

end ScenarioScript
