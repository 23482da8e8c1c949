/-!
# Texts

A text is the list of its letters, so that lengths and offsets count code points and every
function on texts is a recursion over a list.  A letter is a character, or one half of a surrogate
pair that stands alone: an escape in a file can name such a half, and it then goes through the whole
program like any other letter, up to the encoding of what is printed or written.

Strings of the host language appear only where a program reads its input or prints its output.

**Main definitions.**

* `Letter` is the type of letters, `Letter.toNat` the code point.
* `Text.after?` removes a fixed beginning.
* `Text.trim` removes the letters of a class from both ends, `Text.strip` the blanks.
* `Text.times` repeats a text; a negative number of times gives the empty text.
* `Text.lower` lower-cases a text, as far as the letters a to z are concerned.
* `Text.decimal` and `Text.hexadecimal` write numbers.
-/

namespace ScenarioScript

/-! ## Letters -/

/-- **The letters of texts.** -/
inductive Letter where
  | char (c : Char)
  /-- Half of a surrogate pair, counted from the first one. -/
  | half (index : Fin 0x800)
deriving Repr, DecidableEq

export Letter (char)

namespace Letter

/-- **The code point of a letter.** -/
def toNat : Letter → Nat
  | .char c => c.toNat
  | .half index => 0xD800 + index

/-- Half of a surrogate pair. -/
def isHalf : Letter → Bool
  | .char _ => false
  | .half _ => true

@[simp] theorem toNat_char (c : Char) : (char c).toNat = c.toNat := rfl

/-- **The letter with a code point**; a number beyond all code points gives the null character. -/
def ofNat (n : Nat) : Letter :=
  if h : 0xD800 ≤ n ∧ n < 0xE000 then .half ⟨n - 0xD800, by omega⟩ else char (Char.ofNat n)

end Letter

/-- The first half of a surrogate pair. -/
def isHighSurrogate (unit : Nat) : Bool :=
  0xD800 ≤ unit && unit ≤ 0xDBFF

/-- The second half of a surrogate pair. -/
def isLowSurrogate (unit : Nat) : Bool :=
  0xDC00 ≤ unit && unit ≤ 0xDFFF

/-- **Texts** are lists of letters. -/
abbrev Text := List Letter

/-- The text of a list of characters. -/
def Text.ofChars (chars : List Char) : Text :=
  chars.map char

end ScenarioScript

/-- **The text of a string.** -/
def String.toText (string : String) : ScenarioScript.Text :=
  ScenarioScript.Text.ofChars string.toList

@[simp] theorem String.toText_inj {string other : String} :
    string.toText = other.toText ↔ string = other := by
  rw [toText, toText, ScenarioScript.Text.ofChars, ScenarioScript.Text.ofChars,
    List.map_inj_right fun _ _ => ScenarioScript.Letter.char.inj, String.toList_inj]

@[simp] theorem String.char_mem_toText {c : Char} {string : String} :
    ScenarioScript.char c ∈ string.toText ↔ c ∈ string.toList := by
  simp [toText, ScenarioScript.Text.ofChars]

@[simp] theorem String.toText_eq_nil {string : String} : string.toText = [] ↔ string = "" := by
  rw [toText, ScenarioScript.Text.ofChars, List.map_eq_nil_iff, String.toList_eq_nil_iff]

namespace ScenarioScript

namespace Text

/-! ## Beginnings and ends -/

/-- **What follows a fixed beginning**, or `none` if the text does not begin with `lead`. -/
def after? : (lead text : Text) → Option Text
  | [], text => some text
  | _ :: _, [] => none
  | c :: lead, d :: text => if c = d then after? lead text else none

@[simp] theorem after?_nil (text : Text) : after? [] text = some text := by
  cases text <;> rfl

/-- A beginning is removed exactly when it stands there. -/
theorem after?_eq_some_iff {lead text rest : Text} :
    after? lead text = some rest ↔ text = lead ++ rest := by
  induction lead generalizing text with
  | nil => simp
  | cons c lead ih =>
    cases text with
    | nil => simp [after?]
    | cons d text =>
      by_cases h : c = d
      · simp [after?, h, ih]
      · simp [after?, h, Ne.symm h]

/-- Whether a text begins with `lead`. -/
def startsWith (lead text : Text) : Bool :=
  (after? lead text).isSome

/-- **Trimming** removes the letters of a class from both ends and keeps the middle. -/
def trim (drop : Letter → Bool) (text : Text) : Text :=
  ((text.dropWhile drop).reverse.dropWhile drop).reverse

/-- **Replacing**: every letter is replaced by the text that `f` gives for it. -/
def replaceEach (f : Letter → Text) (text : Text) : Text :=
  text.flatMap f

/-! ## Blanks -/

/-- **The blanks**: the ASCII controls from tab to carriage return and from file separator to unit
    separator, the space, and the separators that Unicode lists as white space. -/
def isBlank (c : Letter) : Bool :=
  let n := c.toNat
  (0x09 ≤ n && n ≤ 0x0D) || (0x1C ≤ n && n ≤ 0x20) || n == 0x85 || n == 0xA0 || n == 0x1680
    || (0x2000 ≤ n && n ≤ 0x200A) || n == 0x2028 || n == 0x2029 || n == 0x202F || n == 0x205F
    || n == 0x3000

/-- **Stripping** removes the blanks at both ends. -/
def strip (text : Text) : Text :=
  trim isBlank text

/-- A text that holds nothing but blanks; the empty text is one. -/
def isBlankOnly (text : Text) : Bool :=
  text.all isBlank

/-! ## Lower case -/

/-- **The lower case of a letter**, as far as the letters a to z are concerned.  Besides the
    twenty-six capitals only two letters have one of these in their lower-case form: the kelvin
    sign, which becomes `k`, and the dotted capital I, which becomes `i` and a combining dot.  Every
    other letter is kept, because its lower-case form holds no ASCII letter at all. -/
def lowerEach : Letter → Text
  | .char c =>
    if c = '\u212A' then [char 'k']
    else if c = '\u0130' then [char 'i', char '\u0307']
    else [char c.toLower]
  | .half index => [.half index]

/-- **Lower-casing** of a text. -/
def lower (text : Text) : Text :=
  replaceEach lowerEach text

/-- **Small letters and digits** of ASCII. -/
def isWordChar (c : Letter) : Bool :=
  let n := c.toNat
  (0x61 ≤ n && n ≤ 0x7A) || (0x30 ≤ n && n ≤ 0x39)

/-! ## Repetition -/

/-- **Repetition.** A text written `count` times over; a count below one gives nothing. -/
def times (text : Text) (count : Int) : Text :=
  (List.replicate count.toNat text).flatten

/-! ## Lines -/

/-- Every line ended by one line feed. -/
def unlines (lines : List Text) : Text :=
  lines.flatMap fun line => line ++ [char '\n']

/-! ## Numbers -/

def ofNat (n : Nat) : Text :=
  ofChars (Nat.toDigits 10 n)

/-- **Decimal writing** of an integer, with a minus sign in front of a negative one. -/
def decimal : Int → Text
  | .ofNat n => ofNat n
  | .negSucc n => char '-' :: ofNat (n + 1)

/-- **Hexadecimal writing** with lower-case digits, padded with zeros to at least `width`. -/
def hexadecimal (width n : Nat) : Text :=
  let digits := ofChars (Nat.toDigits 16 n)
  List.replicate (width - digits.length) (char '0') ++ digits

/-- A text padded with blanks on the right to at least `width` letters. -/
def padRight (width : Nat) (text : Text) : Text :=
  text ++ List.replicate (width - text.length) (char ' ')

end Text

end ScenarioScript
