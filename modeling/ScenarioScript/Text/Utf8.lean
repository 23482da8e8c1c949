import ScenarioScript.Text

/-!
# UTF-8

Decodes bytes one at a time.  Between two bytes the decoder is either between characters or owes a
number of continuation bytes, the next of which has bounds of its own where the first byte leaves
only part of the range.

**Main definitions.**

* `Utf8.Pending` is a character of which bytes are still owed, `Utf8.start` what a first byte leads
  to.
* `Utf8.decode` decodes, `Utf8.Fault` is why bytes cannot be decoded.
* `Utf8.encode` encodes, and `Utf8.size` is the number of bytes that a name takes.
-/

namespace ScenarioScript

/-- **Bytes.** -/
abbrev Bytes := List UInt8

namespace Utf8

/-- **What can be wrong** with a sequence of bytes. -/
inductive Problem where
  | invalidStart
  | invalidContinuation
  | unexpectedEnd
deriving Repr, DecidableEq

def Problem.message : Problem → Text
  | .invalidStart => "invalid start byte".toText
  | .invalidContinuation => "invalid continuation byte".toText
  | .unexpectedEnd => "unexpected end of data".toText

/-- **Why bytes cannot be decoded**: the first byte of the bad sequence, the number of its bytes,
    and the number of bytes from its start to the end. -/
structure Fault where
  problem : Problem
  byte : UInt8
  length : Nat
  /-- The number of bytes from the start of the sequence to the end. -/
  remaining : Nat
deriving Repr, DecidableEq

/-- **The wording of a fault** in `size` bytes. -/
def Fault.message (size : Nat) (fault : Fault) : Text :=
  let position := size - fault.remaining
  let place :=
    if fault.length = 1 then
      "byte 0x".toText ++ Text.hexadecimal 2 fault.byte.toNat ++ " in position ".toText
        ++ Text.ofNat position
    else
      "bytes in position ".toText ++ Text.ofNat position ++ char '-'
        :: Text.ofNat (position + fault.length - 1)
  "'utf-8' codec can't decode ".toText ++ place ++ ": ".toText ++ fault.problem.message

/-- **A character that is not complete.** -/
structure Pending where
  /-- Its first byte. -/
  byte : UInt8
  seen : Nat
  /-- The number of bytes owed after the next one. -/
  owed : Nat
  /-- The least value of the next byte. -/
  low : Nat
  /-- The greatest value of the next byte. -/
  high : Nat
  bits : Nat
deriving Repr, DecidableEq

/-- **What a first byte leads to**, if it is no character by itself. -/
def start (byte : UInt8) : Option Pending :=
  let n := byte.toNat
  if 0xC2 ≤ n && n ≤ 0xDF then some ⟨byte, 1, 0, 0x80, 0xBF, n - 0xC0⟩
  else if n = 0xE0 then some ⟨byte, 1, 1, 0xA0, 0xBF, 0⟩
  else if n = 0xED then some ⟨byte, 1, 1, 0x80, 0x9F, n - 0xE0⟩
  else if 0xE1 ≤ n && n ≤ 0xEF then some ⟨byte, 1, 1, 0x80, 0xBF, n - 0xE0⟩
  else if n = 0xF0 then some ⟨byte, 1, 2, 0x90, 0xBF, 0⟩
  else if 0xF1 ≤ n && n ≤ 0xF3 then some ⟨byte, 1, 2, 0x80, 0xBF, n - 0xF0⟩
  else if n = 0xF4 then some ⟨byte, 1, 2, 0x80, 0x8F, n - 0xF0⟩
  else none

/-- The bits with those of one more byte. -/
def Pending.extend (pending : Pending) (byte : UInt8) : Nat :=
  pending.bits * 64 + (byte.toNat - 0x80)

/-- Decoding, with the character that is being read. -/
def decodeFrom : Option Pending → Bytes → Except Fault Text
  | none, [] => .ok []
  | some pending, [] => .error ⟨.unexpectedEnd, pending.byte, pending.seen, pending.seen⟩
  | none, byte :: rest =>
    if byte.toNat ≤ 0x7F then (decodeFrom none rest).map (char (Char.ofNat byte.toNat) :: ·)
    else
      match start byte with
      | some pending => decodeFrom (some pending) rest
      | none => .error ⟨.invalidStart, byte, 1, rest.length + 1⟩
  | some pending, byte :: rest =>
    if pending.low ≤ byte.toNat && byte.toNat ≤ pending.high then
      if pending.owed = 0 then
        (decodeFrom none rest).map (char (Char.ofNat (pending.extend byte)) :: ·)
      else
        decodeFrom (some { pending with
          seen := pending.seen + 1
          owed := pending.owed - 1
          low := 0x80
          high := 0xBF
          bits := pending.extend byte }) rest
    else
      .error ⟨.invalidContinuation, pending.byte, pending.seen, rest.length + 1 + pending.seen⟩

/-- **Decoding.** -/
def decode (bytes : Bytes) : Except Fault Text :=
  decodeFrom none bytes

/-- **Encoding.** Half of a surrogate pair has no encoding, so it is characters that are encoded. -/
def encode (chars : List Char) : Bytes :=
  chars.flatMap String.utf8EncodeChar

/-- The number of bytes that a letter takes in the name of a file, where half of a surrogate pair
    stands for one byte that is no UTF-8. -/
def letterSize : Letter → Nat
  | .char c => c.utf8Size
  | .half _ => 1

/-- **The number of bytes** that a text takes in the name of a file. -/
def size (text : Text) : Nat :=
  text.foldl (fun total c => total + letterSize c) 0

end Utf8

/-- **One kind of line end**: a carriage return, with or without a line feed behind it, becomes a
    line feed. -/
def Text.unifyLineEnds : Text → Text
  | [] => []
  | char '\r' :: char '\n' :: rest => char '\n' :: unifyLineEnds rest
  | c :: rest => (if c = char '\r' then char '\n' else c) :: unifyLineEnds rest

end ScenarioScript
