import Mathlib.Data.List.Chain
import Mathlib.Tactic.Lemma
import Mathlib.Tactic.SplitIfs
import ScenarioScript.Json.Printer
import ScenarioScript.Json.Reader

/-!
# What is written as JSON is read back

An object of scalars is written as one line of ASCII, and reading that line gives the object back.
Writer and reader meet in the middle, at the pieces of a string: the writer turns every letter into
one of four kinds of escapes, the reader turns the escapes into letters and code units, and joining
the units gives the letter again.  Two units are joined if they are the halves of a surrogate pair,
so that the two halves must not stand side by side as letters of their own.

* `Text.IsJoined` — a text in which no two halves of a surrogate pair stand side by side; every
  text of characters is one (`Text.isJoined_ofChars`).
* `Json.IsWriting` — the ways of writing a letter, and the pieces that are read.
* `Json.readPieces_body_append` — **a string is read back.**
* `Json.isScalar`, `Json.AreReadable` — the values in question.  A reader may refuse integers with
  too many digits, so that **what is readable depends on its limit**; the length of the document
  itself is always enough (`Json.areReadable_length`).
* `Json.readValue_write_append`, `Json.readFields_writeFields_append` — a value and a list of
  fields, with anything behind them.
* `Json.readWithin_write_object` — **the whole document**, and `Json.isAsciiLine_write_object` what
  it is made of.
-/

namespace ScenarioScript

/-! ## Hexadecimal digits -/

lemma Text.hexadecimal_four {n : Nat} (h : n < 0x10000) :
    Text.hexadecimal 4 n
      = [char (n / 4096).digitChar, char (n / 256 % 16).digitChar,
        char (n / 16 % 16).digitChar, char (n % 16).digitChar] := by
  have hsixteen : 1 < 16 := by decide
  rw [Text.hexadecimal]
  rcases Nat.lt_or_ge n 16 with h1 | h1
  · rw [Nat.toDigits_of_lt_base h1, Nat.div_eq_of_lt (by omega : n < 4096),
      Nat.div_eq_of_lt (by omega : n < 256), Nat.div_eq_of_lt h1, Nat.mod_eq_of_lt h1]
    rfl
  · rw [Nat.toDigits_of_base_le hsixteen h1]
    rcases Nat.lt_or_ge (n / 16) 16 with h2 | h2
    · rw [Nat.toDigits_of_lt_base h2, Nat.div_eq_of_lt (by omega : n < 4096),
        Nat.div_eq_of_lt (by omega : n < 256), Nat.mod_eq_of_lt h2]
      rfl
    · rw [Nat.toDigits_of_base_le hsixteen h2, Nat.div_div_eq_div_mul]
      rcases Nat.lt_or_ge (n / 256) 16 with h3 | h3
      · rw [Nat.toDigits_of_lt_base h3, Nat.div_eq_of_lt (by omega : n < 4096), Nat.mod_eq_of_lt h3]
        rfl
      · rw [Nat.toDigits_of_base_le hsixteen h3, Nat.div_div_eq_div_mul,
          Nat.toDigits_of_lt_base (by omega : n / 4096 < 16)]
        rfl

/-! ## Letters -/

/-- A character is no half of a surrogate pair. -/
lemma Letter.toNat_char_range (c : Char) :
    c.toNat < 0xD800 ∨ 0xDFFF < c.toNat ∧ c.toNat < 0x110000 := by
  have hvalid := c.valid
  simp only [UInt32.isValidChar, Nat.isValidChar] at hvalid
  show c.val.toNat < _ ∨ _ < c.val.toNat ∧ c.val.toNat < _
  omega

lemma Letter.ofNat_toNat (c : Letter) : Letter.ofNat c.toNat = c := by
  cases c with
  | char c =>
      have hrange := toNat_char_range c
      rw [toNat_char, ofNat, dif_neg (by omega), Char.ofNat_toNat]
  | half index =>
      have hrange : 0xD800 ≤ 0xD800 + index.val ∧ 0xD800 + index.val < 0xE000 := by omega
      rw [toNat, ofNat, dif_pos hrange]
      simp

lemma Letter.toNat_lt (c : Letter) : c.toNat < 0x110000 := by
  cases c with
  | char c =>
      have hrange := toNat_char_range c
      rw [toNat_char]
      omega
  | half index =>
      rw [toNat]
      omega

/-- **The halves of no surrogate pair stand side by side.** -/
def Text.IsJoined (text : Text) : Prop :=
  text.IsChain fun c d => ¬ (isHighSurrogate c.toNat = true ∧ isLowSurrogate d.toNat = true)

instance (text : Text) : Decidable text.IsJoined :=
  inferInstanceAs (Decidable (text.IsChain _))

/-- A text of characters has no halves at all. -/
lemma Text.isJoined_ofChars (chars : List Char) : (ofChars chars).IsJoined := by
  induction chars with
  | nil => exact .nil
  | cons c chars ih =>
      cases chars with
      | nil => exact .singleton _
      | cons d chars =>
          refine .cons_cons ?_ ih
          rintro ⟨hhigh, -⟩
          have hrange := Letter.toNat_char_range c
          replace hhigh : isHighSurrogate c.toNat = true := hhigh
          simp [isHighSurrogate] at hhigh
          omega

namespace Json

lemma hexValue?_digitChar {d : Nat} (h : d < 16) : hexValue? (char d.digitChar) = some d := by
  have hall : ∀ d : Fin 16, hexValue? (char (Nat.digitChar d)) = some d.val := by decide
  exact hall ⟨d, h⟩

lemma hexUnit?_digitChar {n : Nat} (h : n < 0x10000) :
    hexUnit? (char (n / 4096).digitChar) (char (n / 256 % 16).digitChar)
      (char (n / 16 % 16).digitChar) (char (n % 16).digitChar) = some n := by
  rw [hexUnit?, hexValue?_digitChar (by omega), hexValue?_digitChar (by omega),
    hexValue?_digitChar (by omega), hexValue?_digitChar (by omega)]
  simp only [Option.some.injEq]
  omega

/-! ## Strings -/

lemma readPieces_unitEscape_append (opening : Text) {unit : Nat} (h : unit < 0x10000) {rest : Text}
    (hrest : rest ≠ []) :
    readPieces opening (unitEscape unit ++ rest)
      = (readPieces opening rest).map fun (pieces, tail) => (.unit unit :: pieces, tail) := by
  rw [unitEscape, Text.hexadecimal_four h]
  simp only [List.cons_append, List.nil_append, readPieces, hexUnit?_digitChar h]
  simp [hrest]

lemma readPieces_cons (opening : Text) {c : Letter} (hquote : c ≠ char '"')
    (hslash : c ≠ char '\\') (h : 0x20 ≤ c.toNat) (rest : Text) :
    readPieces opening (c :: rest)
      = (readPieces opening rest).map fun (pieces, tail) => (.letter c :: pieces, tail) := by
  rw [readPieces]
  · rw [if_neg (by omega)]
  all_goals simp_all

/-- **The four ways of writing a letter**, and the pieces that are read. -/
inductive IsWriting (c : Letter) : Text → List Piece → Prop where
  /-- A backslash and a letter. -/
  | short (letter : Letter) (hletter : letter ≠ char 'u')
      (hascii : 0x20 ≤ letter.toNat ∧ letter.toNat ≤ 0x7E)
      (hescape : shortEscape? letter = some c) :
      IsWriting c [char '\\', letter] [.letter c]
  /-- The letter itself. -/
  | plain (hquote : c ≠ char '"') (hslash : c ≠ char '\\')
      (hascii : 0x20 ≤ c.toNat ∧ c.toNat ≤ 0x7E) : IsWriting c [c] [.letter c]
  | unit (hplane : c.toNat < 0x10000) : IsWriting c (unitEscape c.toNat) [.unit c.toNat]
  | pair (hplane : ¬ c.toNat < 0x10000) :
      IsWriting c (unitEscape (0xD800 + (c.toNat - 0x10000) / 0x400)
          ++ unitEscape (0xDC00 + (c.toNat - 0x10000) % 0x400))
        [.unit (0xD800 + (c.toNat - 0x10000) / 0x400),
          .unit (0xDC00 + (c.toNat - 0x10000) % 0x400)]

lemma exists_isWriting (c : Letter) : ∃ pieces, IsWriting c (writeChar c) pieces := by
  have hshort : ∀ letter found : Letter, letter ≠ char 'u' →
      0x20 ≤ letter.toNat ∧ letter.toNat ≤ 0x7E → shortEscape? letter = some found → c = found →
        ∃ pieces, IsWriting c [char '\\', letter] pieces := by
    rintro letter found hletter hascii hescape rfl
    exact ⟨_, .short letter hletter hascii hescape⟩
  have hcontrol : ∀ d : Letter, c.toNat = d.toNat → c = d := by
    intro d hd
    rw [← Letter.ofNat_toNat c, hd, Letter.ofNat_toNat]
  rw [writeChar]
  split_ifs with hquote hslash hfeed hreturn htab hback hform hascii hplane
  · exact hshort _ _ (by decide) (by decide) rfl hquote
  · exact hshort _ _ (by decide) (by decide) rfl hslash
  · exact hshort (char 'n') _ (by decide) (by decide) rfl hfeed
  · exact hshort (char 'r') _ (by decide) (by decide) rfl hreturn
  · exact hshort (char 't') _ (by decide) (by decide) rfl htab
  · exact hshort (char 'b') _ (by decide) (by decide) rfl (hcontrol (char '\x08') hback)
  · exact hshort (char 'f') _ (by decide) (by decide) rfl (hcontrol (char '\x0c') hform)
  · exact ⟨_, .plain hquote hslash (by simpa using hascii)⟩
  · exact ⟨_, .unit hplane⟩
  · exact ⟨_, .pair hplane⟩

lemma IsWriting.readPieces_append {c : Letter} {written : Text} {own : List Piece}
    (h : IsWriting c written own) (opening : Text) {rest : Text} (hrest : rest ≠ []) :
    readPieces opening (written ++ rest)
      = (readPieces opening rest).map fun (pieces, tail) => (own ++ pieces, tail) := by
  have hlt := c.toNat_lt
  cases h with
  | short letter hletter hascii hescape =>
      rw [List.cons_append, List.singleton_append, readPieces, if_neg hletter, hescape]
      · rfl
      all_goals simp_all
  | plain hquote hslash hascii =>
      rw [List.singleton_append, readPieces_cons opening hquote hslash hascii.1]
      rfl
  | unit hplane =>
      rw [readPieces_unitEscape_append opening hplane hrest]
      rfl
  | pair hplane =>
      rw [List.append_assoc, readPieces_unitEscape_append opening (by omega) (by simp [hrest]),
        readPieces_unitEscape_append opening (by omega) hrest]
      cases readPieces opening rest <;> rfl

lemma joinPieces_unit {unit : Nat} {pieces : List Piece}
    (h : ∀ low rest, pieces = .unit low :: rest →
      ¬ (isHighSurrogate unit = true ∧ isLowSurrogate low = true)) :
    joinPieces (.unit unit :: pieces) = .ofNat unit :: joinPieces pieces := by
  cases pieces with
  | nil => rfl
  | cons piece rest =>
      cases piece with
      | letter c => rfl
      | unit low =>
          rw [joinPieces, if_neg]
          rw [Bool.and_eq_true]
          exact h low rest rfl

/-- **The pieces of a letter are joined to the letter**, unless it is half of a pair and the other
    half follows. -/
lemma IsWriting.joinPieces_append {c : Letter} {written : Text} {own pieces : List Piece}
    (hwriting : IsWriting c written own)
    (h : ∀ low rest, pieces = .unit low :: rest →
      ¬ (isHighSurrogate c.toNat = true ∧ isLowSurrogate low = true)) :
    joinPieces (own ++ pieces) = c :: joinPieces pieces := by
  have hlt := c.toNat_lt
  cases hwriting with
  | short letter hletter hascii hescape => rfl
  | plain hquote hslash hascii => rfl
  | unit hplane => rw [List.singleton_append, joinPieces_unit h, Letter.ofNat_toNat]
  | pair hplane =>
      have hhigh : isHighSurrogate (0xD800 + (c.toNat - 0x10000) / 0x400) = true := by
        simp [isHighSurrogate]
        omega
      have hlow : isLowSurrogate (0xDC00 + (c.toNat - 0x10000) % 0x400) = true := by
        simp [isLowSurrogate]
        omega
      have hnumber : 0x10000 + (0xD800 + (c.toNat - 0x10000) / 0x400 - 0xD800) * 0x400
          + (0xDC00 + (c.toNat - 0x10000) % 0x400 - 0xDC00) = c.toNat := by
        omega
      have hletter : char (Char.ofNat c.toNat) = c := by
        have hback := Letter.ofNat_toNat c
        rwa [Letter.ofNat, dif_neg (by omega)] at hback
      rw [List.cons_append, List.singleton_append, joinPieces, hhigh, hlow, Bool.and_true,
        if_pos rfl, hnumber, hletter]

lemma IsWriting.ne_nil {c : Letter} {written : Text} {own : List Piece}
    (h : IsWriting c written own) : own ≠ [] := by
  cases h <;> simp

/-- Only half of a pair is read as the second unit of a pair. -/
lemma IsWriting.toNat_of_isLowSurrogate {c : Letter} {written : Text} {own : List Piece}
    {low : Nat} (hwriting : IsWriting c written (.unit low :: own))
    (hlow : isLowSurrogate low = true) : c.toNat = low := by
  have hlt := c.toNat_lt
  generalize hpieces : Piece.unit low :: own = pieces at hwriting
  cases hwriting with
  | short letter hletter hascii hescape => simp at hpieces
  | plain hquote hslash hascii => simp at hpieces
  | unit hplane => exact (Piece.unit.inj (List.cons.inj hpieces).1).symm
  | pair hplane =>
      obtain rfl := Piece.unit.inj (List.cons.inj hpieces).1
      simp only [isLowSurrogate, Bool.and_eq_true, decide_eq_true_eq] at hlow
      omega

lemma writeString_append (value rest : Text) :
    writeString value ++ rest = char '"' :: (value.flatMap writeChar ++ char '"' :: rest) := by
  simp [writeString, Text.replaceEach]

/-- **A string is read back.** -/
lemma readPieces_body_append (opening : Text) {value : Text} (h : value.IsJoined) (rest : Text) :
    ∃ pieces, readPieces opening (value.flatMap writeChar ++ char '"' :: rest) = .ok (pieces, rest)
      ∧ joinPieces pieces = value := by
  -- the induction has to know that a second half comes first only if the text begins with it
  suffices ∃ pieces, readPieces opening (value.flatMap writeChar ++ char '"' :: rest)
        = .ok (pieces, rest)
      ∧ joinPieces pieces = value
      ∧ ∀ low later, pieces = .unit low :: later → isLowSurrogate low = true →
        value.head?.map Letter.toNat = some low by
    obtain ⟨pieces, hread, hjoin, -⟩ := this
    exact ⟨pieces, hread, hjoin⟩
  induction value with
  | nil => exact ⟨[], rfl, rfl, by simp⟩
  | cons c value ih =>
      obtain ⟨pieces, hread, hjoin, hhead⟩ := ih h.tail
      obtain ⟨own, hwriting⟩ := exists_isWriting c
      refine ⟨own ++ pieces, ?_, ?_, ?_⟩
      · rw [List.flatMap_cons, List.append_assoc,
          hwriting.readPieces_append opening (by simp), hread]
        rfl
      · rw [hwriting.joinPieces_append, hjoin]
        rintro low later hpieces ⟨hhigh, hlow⟩
        have hnext := hhead low later hpieces hlow
        cases value with
        | nil => simp at hnext
        | cons d value =>
            obtain rfl : d.toNat = low := by simpa using hnext
            exact (List.isChain_cons_cons.mp h).1 ⟨hhigh, hlow⟩
      · intro low later hpieces hlow
        cases own with
        | nil => exact absurd rfl hwriting.ne_nil
        | cons first own =>
            obtain rfl := (List.cons.inj hpieces).1
            simp [hwriting.toNat_of_isLowSurrogate hlow]

/-! ## Integers -/

lemma isDigit_iff {c : Letter} : isDigit c = true ↔ 48 ≤ c.toNat ∧ c.toNat ≤ 57 := by
  simp [isDigit]

lemma digitValue?_of_isDigit {c : Letter} (h : isDigit c = true) :
    Text.digitValue? c = some (c.toNat - 48) := by
  have hrange := isDigit_iff.mp h
  rw [Text.digitValue?, Text.digitRows, List.find?_cons_of_pos]
  · rfl
  · simp
    omega

lemma readDigits_of_isDigit {digits : Text} (h : ∀ c ∈ digits, isDigit c = true) (needDigit : Bool)
    (hneed : needDigit = true → digits ≠ []) :
    Text.readDigits needDigit digits = some (digits.map fun c => c.toNat - 48, []) := by
  induction digits generalizing needDigit with
  | nil => simp_all [Text.readDigits]
  | cons c digits ih =>
      rw [List.forall_mem_cons] at h
      rw [Text.readDigits, digitValue?_of_isDigit h.1]
      simp only [ih h.2 false (by simp)]
      rfl

lemma isDigit_of_mem_ofNat {n : Nat} {c : Letter} (h : c ∈ Text.ofNat n) : isDigit c = true := by
  obtain ⟨digit, hdigit, rfl⟩ := List.mem_map.mp h
  exact isDigit_iff.mpr
    (Char.isDigit_iff_toNat.mp (Nat.isDigit_of_mem_toDigits (by decide) (by decide) hdigit))

lemma ofNat_ne_nil (n : Nat) : Text.ofNat n ≠ [] := by
  simp [Text.ofNat, Text.ofChars, Nat.toDigits_ne_nil]

lemma readDigits_ofNat (n : Nat) :
    Text.readDigits true (Text.ofNat n) = some ((Text.ofNat n).map fun c => c.toNat - 48, []) :=
  readDigits_of_isDigit (fun _ h => isDigit_of_mem_ofNat h) true fun _ => ofNat_ne_nil n

lemma ofDigitValues_ofNat (n : Nat) :
    Text.ofDigitValues ((Text.ofNat n).map fun c => c.toNat - 48) = n := by
  have h : Nat.ofDigitChars 10 (Nat.toDigits 10 n) 0 = n := Nat.ofDigitChars_ten_toDigits
  rw [Nat.ofDigitChars_eq_foldl] at h
  rw [Text.ofDigitValues, Text.ofNat, Text.ofChars, List.map_map, List.foldl_map]
  exact h

/-- Only zero is written with a zero in front. -/
lemma head?_ofNat_ne {n : Nat} (hn : 0 < n) : (Text.ofNat n).head? ≠ some (char '0') := by
  induction n using Nat.strongRecOn with
  | ind n ih =>
      rw [Text.ofNat]
      rcases Nat.lt_or_ge n 10 with h | h
      · rw [Nat.toDigits_of_lt_base h]
        simp [Text.ofChars]
        omega
      · rw [Nat.toDigits_of_base_le (by decide) h, Text.ofChars, List.map_append,
          List.head?_append, Option.or_of_isSome (by simp)]
        exact ih (n / 10) (by omega) (by omega)

lemma exists_ofNat_eq_cons (n : Nat) :
    ∃ c digits, Text.ofNat n = c :: digits ∧ isDigit c = true
      ∧ (∀ d ∈ digits, isDigit d = true) ∧ (c = char '0' → digits = []) := by
  cases h : Text.ofNat n with
  | nil => exact absurd h (ofNat_ne_nil n)
  | cons c digits =>
      have hdigits : ∀ d ∈ c :: digits, isDigit d = true := fun d hd =>
        isDigit_of_mem_ofNat (h ▸ hd)
      rw [List.forall_mem_cons] at hdigits
      refine ⟨c, digits, rfl, hdigits.1, hdigits.2, fun hzero => ?_⟩
      rcases Nat.eq_zero_or_pos n with rfl | hn
      · exact (List.cons.inj h).2.symm
      · exact absurd (by rw [h, hzero]; rfl) (head?_ofNat_ne hn)

/-- **What may follow a value inside an object.** -/
def IsDelimiter (c : Letter) : Prop :=
  c = char ',' ∨ c = char '\x7d'

lemma readWhole?_ofNat_append (n : Nat) {c : Letter} (hc : IsDelimiter c) (tail : Text) :
    readWhole? (Text.ofNat n ++ c :: tail) = some (Text.ofNat n, c :: tail) := by
  obtain ⟨d, digits, heq, hd, hdigits, hzero⟩ := exists_ofNat_eq_cons n
  have hstop : isDigit c = false := by rcases hc with rfl | rfl <;> rfl
  rw [heq, List.cons_append, readWhole?]
  split_ifs with h0
  · subst h0
    rw [hzero rfl]
    rfl
  · rw [List.takeWhile_append_of_pos hdigits, List.dropWhile_append_of_pos hdigits,
      List.takeWhile_cons_of_neg (by simp [hstop]), List.dropWhile_cons_of_neg (by simp [hstop]),
      List.append_nil]

/-- The sign in front of a number. -/
def sign (value : Int) : Text :=
  if value < 0 then [char '-'] else []

lemma decimal_eq (value : Int) : Text.decimal value = sign value ++ Text.ofNat value.natAbs := by
  cases value with
  | ofNat n => simp [Text.decimal, sign]
  | negSucc n => simp [Text.decimal, sign, Int.negSucc_lt_zero]

lemma readNumber?_decimal_append (value : Int) {c : Letter} (hc : IsDelimiter c) (tail : Text) :
    readNumber? (Text.decimal value ++ c :: tail)
      = some ((sign value, Text.ofNat value.natAbs, []), c :: tail) := by
  have hminus : readMinus (Text.decimal value ++ c :: tail)
      = (sign value, Text.ofNat value.natAbs ++ c :: tail) := by
    rw [decimal_eq, sign]
    split_ifs with hneg
    · rfl
    · obtain ⟨d, digits, heq, hd, -⟩ := exists_ofNat_eq_cons value.natAbs
      rw [heq, List.nil_append, List.cons_append, readMinus]
      rintro rest heq
      rw [(List.cons.inj heq).1] at hd
      exact absurd hd (by decide)
  have hfraction : readFraction (c :: tail) = ([], c :: tail) := by
    rcases hc with rfl | rfl <;> rfl
  have hexponent : readExponent (c :: tail) = ([], c :: tail) := by
    rcases hc with rfl | rfl <;> rfl
  simp only [readNumber?, hminus, readWhole?_ofNat_append value.natAbs hc tail, Option.map_some,
    hfraction, hexponent, List.append_nil]

lemma readIntegerWithin_decimal {limit : Nat} {value : Int}
    (h : (Text.ofNat value.natAbs).length ≤ limit) :
    Text.readIntegerWithin limit (sign value ++ Text.ofNat value.natAbs) = .ok value := by
  have hsign : Text.readSign ((sign value ++ Text.ofNat value.natAbs).dropWhile Text.isNumberBlank)
      = (if value < 0 then -1 else 1, Text.ofNat value.natAbs) := by
    rw [sign]
    split_ifs with hneg
    · rfl
    · obtain ⟨d, digits, heq, hd, -⟩ := exists_ofNat_eq_cons value.natAbs
      have hrange := isDigit_iff.mp hd
      have hblank : ¬ Text.isNumberBlank d = true := by
        simp [Text.isNumberBlank]
        omega
      rw [heq, List.nil_append, List.dropWhile_cons_of_neg hblank, Text.readSign]
      all_goals
        rintro rest heq
        rw [(List.cons.inj heq).1] at hd
        exact absurd hd (by decide)
  have hvalue : (if value < 0 then -1 else 1) * (value.natAbs : Int) = value := by
    split_ifs <;> omega
  simp only [Text.readIntegerWithin, hsign, readDigits_ofNat, List.length_map,
    ofDigitValues_ofNat, hvalue]
  rw [if_neg (by omega)]
  rfl

/-! ## Scalars -/

/-- **Scalars**: the values that have no parts.  Numbers with a fraction are not among them. -/
def isScalar : Json → Bool
  | .null => true
  | .bool _ => true
  | .integer _ => true
  | .string _ => true
  | _ => false

/-- **The number of digits** of an integer. -/
def digitCount : Json → Nat
  | .integer value => (Text.ofNat value.natAbs).length
  | _ => 0

/-- A string that is read back as it was written. -/
def IsJoined : Json → Prop
  | .string value => value.IsJoined
  | _ => True

instance (value : Json) : Decidable value.IsJoined :=
  match value with
  | .string value => inferInstanceAs (Decidable value.IsJoined)
  | .null | .bool _ | .integer _ | .decimal _ | .array _ | .object _ => .isTrue trivial

/-- An integer begins with a digit or with a minus sign and a digit. -/
lemma exists_decimal_eq_cons (value : Int) :
    ∃ d digits, isDigit d = true
      ∧ (Text.decimal value = d :: digits ∨ Text.decimal value = char '-' :: d :: digits) := by
  obtain ⟨d, digits, heq, hd, -⟩ := exists_ofNat_eq_cons value.natAbs
  refine ⟨d, digits, hd, ?_⟩
  rw [decimal_eq, heq, sign]
  split_ifs
  · exact .inr rfl
  · exact .inl rfl

lemma readScalar_decimal_append {limit : Nat} {value : Int}
    (h : (Text.ofNat value.natAbs).length ≤ limit) {c : Letter} (hc : IsDelimiter c) (tail : Text) :
    readScalar limit (Text.decimal value ++ c :: tail) = .ok (.integer value, c :: tail) := by
  have hwords : ∀ entry ∈ words, Text.after? entry.1 (Text.decimal value ++ c :: tail) = none := by
    obtain ⟨d, digits, hd, heq⟩ := exists_decimal_eq_cons value
    have hne : ∀ letter : Letter, isDigit letter = false → letter ≠ d := by
      rintro letter hletter rfl
      exact absurd hd (by simp [hletter])
    rcases heq with heq | heq
    · simp [heq, words, Text.after?, hne, String.toText, Text.ofChars, isDigit]
    · simp [heq, words, Text.after?, hne, String.toText, Text.ofChars, isDigit]
  rw [readScalar, List.findSome?_eq_none_iff.mpr]
  · simp only [readNumber?_decimal_append value hc tail, ofNumber, readIntegerWithin_decimal h]
    rfl
  · intro entry hentry
    simp only [hwords entry hentry, Option.map_none]

lemma readValue_write_append {limit : Nat} {value : Json} (hscalar : value.isScalar = true)
    (hdigits : value.digitCount ≤ limit) (hjoined : value.IsJoined) (steps : Nat) {c : Letter}
    (hc : IsDelimiter c)
    (tail : Text) :
    readValue limit (steps + 1) (value.write ++ c :: tail) = .ok (value, c :: tail) := by
  cases value with
  | null => rfl
  | bool b => cases b <;> rfl
  | integer value =>
      obtain ⟨d, digits, hd, heq⟩ := exists_decimal_eq_cons value
      have hscalar : readValue limit (steps + 1) (Text.decimal value ++ c :: tail)
          = readScalar limit (Text.decimal value ++ c :: tail) := by
        rcases heq with heq | heq
        · rw [heq, List.cons_append, readValue]
          all_goals
            rintro inside heq
            rw [(List.cons.inj heq).1] at hd
            exact absurd hd (by decide)
        · rw [heq]
          rfl
      rw [write, hscalar, readScalar_decimal_append hdigits hc tail]
  | string value =>
      rw [write, writeString_append, readValue]
      obtain ⟨pieces, hread, hjoin⟩ := readPieces_body_append
        (char '"' :: (value.flatMap writeChar ++ char '"' :: c :: tail)) hjoined (c :: tail)
      simp [hread, Except.map, hjoin]
  | decimal _ | array _ | object _ => exact absurd hscalar (by simp [isScalar])

/-! ## Objects -/

lemma skipSpace_cons {c : Letter} (h : isSpace c = false) (text : Text) :
    skipSpace (c :: text) = c :: text :=
  List.dropWhile_cons_of_neg (by simp [h])

lemma skipSpace_write_append {value : Json} (hscalar : value.isScalar = true) (rest : Text) :
    skipSpace (value.write ++ rest) = value.write ++ rest := by
  cases value with
  | null => rfl
  | bool b => cases b <;> rfl
  | integer value =>
      obtain ⟨d, digits, hd, heq | heq⟩ := exists_decimal_eq_cons value
      · have hspace : isSpace d = false := by
          rw [Bool.eq_false_iff]
          intro hspace
          simp only [isSpace, Bool.or_eq_true, decide_eq_true_eq] at hspace
          rcases hspace with ((rfl | rfl) | rfl) | rfl <;> exact absurd hd (by decide)
        rw [write, heq, List.cons_append, skipSpace_cons hspace]
      · rw [write, heq]
        rfl
  | string value =>
      rw [write, writeString_append]
      rfl
  | decimal _ | array _ | object _ => exact absurd hscalar (by simp [isScalar])

lemma readKey_writeString_append {key : Text} (hkey : key.IsJoined) (rest : Text) :
    readKey (writeString key ++ char ':' :: char ' ' :: rest) = .ok (key, skipSpace rest) := by
  rw [writeString_append]
  obtain ⟨pieces, hread, hjoin⟩ := readPieces_body_append
    (char '"' :: (key.flatMap writeChar ++ char '"' :: char ':' :: char ' ' :: rest)) hkey
    (char ':' :: char ' ' :: rest)
  simp only [readKey, hread, skipSpace_cons (rfl : isSpace (char ':') = false), hjoin]
  rfl

/-- **Texts that survive writing and reading**: the key and the string of a field. -/
def FieldIsJoined (field : Text × Json) : Prop :=
  field.1.IsJoined ∧ field.2.IsJoined

instance (field : Text × Json) : Decidable (FieldIsJoined field) :=
  inferInstanceAs (Decidable (_ ∧ _))

/-- **Fields that survive writing and reading**: scalars whose integers have at most `limit`
    digits and whose texts do not split a surrogate pair. -/
def AreReadable (limit : Nat) (fields : List (Text × Json)) : Prop :=
  ∀ field ∈ fields, field.2.isScalar = true ∧ field.2.digitCount ≤ limit ∧ FieldIsJoined field

lemma readFields_field {limit : Nat} (steps : Nat) (known : List (Text × Json)) {key : Text}
    {value : Json} (hscalar : value.isScalar = true) (hdigits : value.digitCount ≤ limit)
    (hjoined : FieldIsJoined (key, value)) {c : Letter} (hc : IsDelimiter c) (tail : Text) :
    readFields limit (steps + 2) known (writeField (key, value) ++ c :: tail)
      = if c = char ',' then readFields limit (steps + 1) (Association.put key value known)
          (skipSpace tail)
        else .ok (Association.put key value known, tail) := by
  have hkey : writeField (key, value) ++ c :: tail
      = writeString key ++ char ':' :: char ' ' :: (value.write ++ c :: tail) := by
    simp [writeField]
  rw [hkey, readFields, readKey_writeString_append hjoined.1, skipSpace_write_append hscalar]
  simp only [readValue_write_append hscalar hdigits hjoined.2 steps hc tail]
  rcases hc with rfl | rfl <;> rfl

lemma writeFields_cons_cons (field next : Text × Json) (fields : List (Text × Json)) (rest : Text) :
    writeFields (field :: next :: fields) ++ rest
      = writeField field ++ char ',' :: char ' ' :: (writeFields (next :: fields) ++ rest) := by
  simp [writeFields]

/-- What separates the first field of an object from the others. -/
lemma exists_writeFields_cons (field : Text × Json) (fields : List (Text × Json)) :
    ∃ gap, (gap = [] ∨ gap = [char ',', char ' '])
      ∧ writeFields (field :: fields) = writeField field ++ (gap ++ writeFields fields) := by
  cases fields with
  | nil => exact ⟨[], .inl rfl, by simp [writeFields]⟩
  | cons next fields => exact ⟨[char ',', char ' '], .inr rfl, by simp [writeFields]⟩

/-- The fields of an object begin with the quote of their first key. -/
lemma exists_writeFields_append_eq (field : Text × Json) (fields : List (Text × Json))
    (rest : Text) : ∃ tail, writeFields (field :: fields) ++ rest = char '"' :: tail := by
  obtain ⟨gap, -, heq⟩ := exists_writeFields_cons field fields
  rw [heq, writeField, List.append_assoc, List.append_assoc, List.append_assoc, writeString_append]
  exact ⟨_, rfl⟩

lemma readFields_writeFields_append {limit : Nat} {fields : List (Text × Json)}
    (hne : fields ≠ []) (h : AreReadable limit fields) {steps : Nat}
    (hsteps : fields.length < steps) (known : List (Text × Json)) (rest : Text) :
    readFields limit steps known (writeFields fields ++ char '\x7d' :: rest)
      = .ok (Association.putAll known fields, rest) := by
  induction fields generalizing steps known with
  | nil => exact absurd rfl hne
  | cons field fields ih =>
      rw [AreReadable, List.forall_mem_cons] at h
      obtain ⟨steps, rfl⟩ : ∃ fewer, steps = fewer + 2 := ⟨steps - 2, by simp at hsteps; omega⟩
      cases fields with
      | nil =>
          rw [writeFields, readFields_field steps known h.1.1 h.1.2.1 h.1.2.2 (.inr rfl)]
          rfl
      | cons next fields =>
          rw [writeFields_cons_cons,
            readFields_field steps known h.1.1 h.1.2.1 h.1.2.2 (.inl rfl), if_pos rfl]
          have hspace :
              skipSpace (char ' ' :: (writeFields (next :: fields) ++ char '\x7d' :: rest))
                = writeFields (next :: fields) ++ char '\x7d' :: rest := by
            obtain ⟨tail, heq⟩ := exists_writeFields_append_eq next fields (char '\x7d' :: rest)
            rw [heq]
            rfl
          rw [hspace, ih (by simp) h.2 (by simp at hsteps ⊢; omega)]
          rfl

/-! ## Documents -/

lemma length_writeFields_cons (field : Text × Json) (fields : List (Text × Json)) :
    field.2.write.length + 1 + (writeFields fields).length
      ≤ (writeFields (field :: fields)).length := by
  obtain ⟨gap, -, heq⟩ := exists_writeFields_cons field fields
  rw [heq, writeField]
  simp only [List.length_append, List.length_cons]
  omega

lemma length_le_length_writeFields (fields : List (Text × Json)) :
    fields.length ≤ (writeFields fields).length := by
  induction fields with
  | nil => simp
  | cons field fields ih =>
      have hcons := length_writeFields_cons field fields
      rw [List.length_cons]
      omega

lemma length_write_le_length_writeFields {fields : List (Text × Json)} {field : Text × Json}
    (h : field ∈ fields) : field.2.write.length ≤ (writeFields fields).length := by
  induction fields with
  | nil => simp at h
  | cons first fields ih =>
      have hcons := length_writeFields_cons first fields
      rcases List.mem_cons.mp h with rfl | h
      · omega
      · have hrest := ih h
        omega

lemma readValue_write_object {limit : Nat} {fields : List (Text × Json)}
    (h : AreReadable limit fields) {steps : Nat} (hsteps : fields.length < steps) :
    readValue limit (steps + 1) (Json.object fields).write
      = .ok (.object (Association.putAll [] fields), []) := by
  cases fields with
  | nil => rfl
  | cons field fields =>
      have hfields := readFields_writeFields_append (by simp) h hsteps [] []
      obtain ⟨tail, heq⟩ := exists_writeFields_append_eq field fields [char '\x7d']
      rw [write, List.cons_append, readValue]
      rw [heq] at hfields ⊢
      show (readFields limit steps [] (char '"' :: tail)).map _ = _
      rw [hfields]
      rfl

/-- **Reading what was written.** -/
lemma readWithin_write_object {limit : Nat} {fields : List (Text × Json)}
    (h : AreReadable limit fields) :
    readWithin limit (Json.object fields).write = .ok (.object (Association.putAll [] fields)) := by
  have hlength : fields.length < 2 * (Json.object fields).write.length + 1 := by
    have hle := length_le_length_writeFields fields
    rw [write]
    simp only [List.length_append, List.length_cons]
    omega
  have hhead : (Json.object fields).write.head? = some (char '\x7b') := by
    rw [write]
    rfl
  have hstart : skipSpace (Json.object fields).write = (Json.object fields).write := by
    rw [write]
    rfl
  rw [readWithin, hhead, if_neg (by decide), hstart]
  simp only [readValue_write_object h hlength]
  rfl

lemma digitCount_le_length_write (value : Json) : value.digitCount ≤ value.write.length := by
  cases value with
  | integer value =>
      rw [write, decimal_eq, List.length_append]
      exact Nat.le_add_left _ _
  | null | bool _ | decimal _ | string _ | array _ | object _ => exact Nat.zero_le _

/-- The length of a document is limit enough for its integers. -/
lemma areReadable_length {fields : List (Text × Json)}
    (h : ∀ field ∈ fields, field.2.isScalar = true)
    (hjoined : ∀ field ∈ fields, FieldIsJoined field) :
    AreReadable (Json.object fields).write.length fields := by
  intro field hfield
  refine ⟨h field hfield, ?_, hjoined field hfield⟩
  have hdigits := digitCount_le_length_write field.2
  have hlength := length_write_le_length_writeFields hfield
  rw [write]
  simp only [List.length_append, List.length_cons]
  omega

end Json

/-! ## Letters of a document -/

/-- **A line of ASCII**: only letters from space to tilde, so neither controls nor line
    breaks. -/
def Text.IsAsciiLine (text : Text) : Prop :=
  ∀ c ∈ text, 0x20 ≤ c.toNat ∧ c.toNat ≤ 0x7E

lemma Text.isAsciiLine_append {front back : Text} :
    (front ++ back).IsAsciiLine ↔ front.IsAsciiLine ∧ back.IsAsciiLine :=
  List.forall_mem_append

lemma Text.isAsciiLine_cons {c : Letter} {text : Text} :
    IsAsciiLine (c :: text) ↔ (0x20 ≤ c.toNat ∧ c.toNat ≤ 0x7E) ∧ text.IsAsciiLine :=
  List.forall_mem_cons

lemma Text.isAsciiLine_ofNat (n : Nat) : (ofNat n).IsAsciiLine := by
  intro c hc
  have hrange := Json.isDigit_iff.mp (Json.isDigit_of_mem_ofNat hc)
  omega

namespace Json

lemma isAsciiLine_digitChar {d : Nat} (h : d < 16) :
    0x20 ≤ d.digitChar.toNat ∧ d.digitChar.toNat ≤ 0x7E := by
  have hall : ∀ d : Fin 16, 0x20 ≤ (Nat.digitChar d).toNat ∧ (Nat.digitChar d).toNat ≤ 0x7E := by
    decide
  exact hall ⟨d, h⟩

lemma isAsciiLine_unitEscape {unit : Nat} (h : unit < 0x10000) :
    (unitEscape unit).IsAsciiLine := by
  rw [unitEscape, Text.hexadecimal_four h]
  intro c hc
  simp only [List.cons_append, List.nil_append, List.mem_cons, List.not_mem_nil, or_false] at hc
  rcases hc with rfl | rfl | rfl | rfl | rfl | rfl
  · decide
  · decide
  all_goals exact isAsciiLine_digitChar (by omega)

lemma isAsciiLine_writeChar (c : Letter) : (writeChar c).IsAsciiLine := by
  have hlt := c.toNat_lt
  obtain ⟨pieces, hwriting⟩ := exists_isWriting c
  generalize writeChar c = written at hwriting ⊢
  cases hwriting with
  | short letter _ hascii => simpa [Text.IsAsciiLine] using hascii
  | plain _ _ hascii => simpa [Text.IsAsciiLine] using hascii
  | unit hplane => exact isAsciiLine_unitEscape hplane
  | pair hplane =>
      exact Text.isAsciiLine_append.mpr
        ⟨isAsciiLine_unitEscape (by omega), isAsciiLine_unitEscape (by omega)⟩

lemma isAsciiLine_writeString (value : Text) : (writeString value).IsAsciiLine := by
  have hbody : Text.IsAsciiLine (value.flatMap writeChar) := by
    intro c hc
    obtain ⟨d, -, hd⟩ := List.mem_flatMap.mp hc
    exact isAsciiLine_writeChar d c hd
  rw [writeString, Text.replaceEach, Text.isAsciiLine_append, Text.isAsciiLine_cons]
  exact ⟨⟨by decide, hbody⟩, by simp [Text.IsAsciiLine]⟩

lemma isAsciiLine_write {value : Json} (h : value.isScalar = true) : value.write.IsAsciiLine := by
  cases value with
  | null => simp [write, Text.IsAsciiLine, String.toText, Text.ofChars]
  | bool b => cases b <;> simp [write, Text.IsAsciiLine, String.toText, Text.ofChars]
  | integer value =>
      rw [write, decimal_eq, Text.isAsciiLine_append, sign]
      refine ⟨?_, Text.isAsciiLine_ofNat _⟩
      split_ifs <;> simp [Text.IsAsciiLine]
  | string value => exact isAsciiLine_writeString value
  | decimal _ | array _ | object _ => exact absurd h (by simp [isScalar])

lemma isAsciiLine_writeFields {fields : List (Text × Json)}
    (h : ∀ field ∈ fields, field.2.isScalar = true) : (writeFields fields).IsAsciiLine := by
  induction fields with
  | nil => simp [writeFields, Text.IsAsciiLine]
  | cons field fields ih =>
      rw [List.forall_mem_cons] at h
      obtain ⟨gap, hgap, heq⟩ := exists_writeFields_cons field fields
      have hfield : (writeField field).IsAsciiLine := by
        rw [writeField, Text.isAsciiLine_append, Text.isAsciiLine_append]
        exact ⟨⟨isAsciiLine_writeString _, by simp [Text.IsAsciiLine]⟩, isAsciiLine_write h.1⟩
      rw [heq, Text.isAsciiLine_append, Text.isAsciiLine_append]
      refine ⟨hfield, ?_, ih h.2⟩
      rcases hgap with rfl | rfl <;> simp [Text.IsAsciiLine]

/-- **An object of scalars is written as a line of ASCII.** -/
lemma isAsciiLine_write_object {fields : List (Text × Json)}
    (h : ∀ field ∈ fields, field.2.isScalar = true) : (Json.object fields).write.IsAsciiLine := by
  rw [write, Text.isAsciiLine_append, Text.isAsciiLine_cons]
  exact ⟨⟨by decide, isAsciiLine_writeFields h⟩, by simp [Text.IsAsciiLine]⟩

end Json

end ScenarioScript
