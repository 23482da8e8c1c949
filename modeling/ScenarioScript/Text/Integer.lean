import ScenarioScript.Text.Quoted

/-!
# Integers written by people

Reads an integer as a person types it: blanks around it, one optional sign, decimal digits of any
script, and single underscores between digits.

**Main definitions.**

* `Text.digitRows` lists the zeros of all scripts, `Text.digitValue?` is the value of a digit.
* `Text.IntegerFault` says why a text is no integer.
* `Text.readIntegerWithin` reads an integer with a bounded number of digits, `Text.readInteger` one
  of ordinary size.
-/

namespace ScenarioScript

namespace Text

/-! ## Digits -/

/-- **The zeros** of the rows of decimal digits, in code point order.  The digits of a script are
    ten consecutive code points from zero to nine, so the first of each row determines the class and
    the value of every member. -/
def digitRows : List Nat :=
  [
    0x30, 0x660, 0x6F0, 0x7C0, 0x966, 0x9E6, 0xA66, 0xAE6, 0xB66, 0xBE6, 0xC66, 0xCE6, 0xD66,
    0xDE6, 0xE50, 0xED0, 0xF20, 0x1040, 0x1090, 0x17E0, 0x1810, 0x1946, 0x19D0, 0x1A80, 0x1A90,
    0x1B50, 0x1BB0, 0x1C40, 0x1C50, 0xA620, 0xA8D0, 0xA900, 0xA9D0, 0xA9F0, 0xAA50, 0xABF0,
    0xFF10, 0x104A0, 0x10D30, 0x11066, 0x110F0, 0x11136, 0x111D0, 0x112F0, 0x11450, 0x114D0,
    0x11650, 0x116C0, 0x11730, 0x118E0, 0x11950, 0x11C50, 0x11D50, 0x11DA0, 0x16A60, 0x16AC0,
    0x16B50, 0x1D7CE, 0x1D7D8, 0x1D7E2, 0x1D7EC, 0x1D7F6, 0x1E140, 0x1E2F0, 0x1E950, 0x1FBF0
  ]

/-- **The value of a decimal digit**, or `none` for any other character. -/
def digitValue? (c : Letter) : Option Nat :=
  (digitRows.find? fun row => row ≤ c.toNat && c.toNat < row + 10).map (c.toNat - ·)

/-! ## Integers -/

/-- **Why a text is no integer.** -/
inductive IntegerFault where
  | malformed (text : Text)
  /-- The text has the form of an integer but more digits than may be read. -/
  | tooLong (limit digits : Nat)
deriving Repr, DecidableEq

/-- **The greatest number of digits** of an integer of ordinary size. -/
def maxDigits : Nat := 4300

/-- A malformed text is shown between quotes and cut to this many characters. -/
def shownLength : Nat := 200

/-- **The wording** of a fault. -/
def IntegerFault.message : IntegerFault → Text
  | .malformed text =>
    "invalid literal for int() with base 10: ".toText ++ (quoted text).take shownLength
  | .tooLong limit digits =>
    "Exceeds the limit (".toText ++ ofNat limit
      ++ " digits) for integer string conversion: value has ".toText ++ ofNat digits
      ++ " digits; use sys.set_int_max_str_digits() to increase the limit".toText

/-- **The blanks allowed around a number.** The four ASCII separator controls are not among
    them. -/
def isNumberBlank (c : Letter) : Bool :=
  let n := c.toNat
  (0x09 ≤ n && n ≤ 0x0D) || n == 0x20 || n == 0x85 || n == 0xA0 || n == 0x1680
    || (0x2000 ≤ n && n ≤ 0x200A) || n == 0x2028 || n == 0x2029 || n == 0x202F || n == 0x205F
    || n == 0x3000

/-- The sign in front of a number, and what follows it. -/
def readSign : Text → Int × Text
  | char '+' :: rest => (1, rest)
  | char '-' :: rest => (-1, rest)
  | rest => (1, rest)

/-- **A run of digits and underscores.** The result holds the values of the digits and the rest of
    the text.  It is `none` if an underscore does not stand between two digits; `needDigit` says
    that a digit has to come next. -/
def readDigits : (needDigit : Bool) → Text → Option (List Nat × Text)
  | needDigit, [] => if needDigit then none else some ([], [])
  | needDigit, c :: rest =>
    match digitValue? c with
    | some d => (readDigits false rest).map fun (ds, tail) => (d :: ds, tail)
    | none =>
      if needDigit then none
      else if c = char '_' then readDigits true rest
      else some ([], c :: rest)

/-- The number that a list of digits stands for. -/
def ofDigitValues (digits : List Nat) : Nat :=
  digits.foldl (fun n d => 10 * n + d) 0

/-- **Reading an integer** of at most `limit` digits.  A run of too many digits is reported before
    anything that follows it. -/
def readIntegerWithin (limit : Nat) (text : Text) : Except IntegerFault Int :=
  let (sign, unsigned) := readSign (text.dropWhile isNumberBlank)
  match readDigits true unsigned with
  | none => .error (.malformed text)
  | some (digits, rest) =>
    if limit < digits.length then .error (.tooLong limit digits.length)
    else if rest.all isNumberBlank then .ok (sign * ofDigitValues digits)
    else .error (.malformed text)

/-- **Reading an integer** of ordinary size. -/
def readInteger (text : Text) : Except IntegerFault Int :=
  readIntegerWithin maxDigits text

end Text

end ScenarioScript
