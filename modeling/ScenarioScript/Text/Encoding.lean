import ScenarioScript.Text.Quoted
import ScenarioScript.Text.Utf8

/-!
# Encodings

What is written to a file or printed on a stream is encoded, and not every encoding has every
letter.  An encoding is any function from texts to bytes that may fail.  Most encode letter by
letter, and then the fault is the first run of letters that the encoding does not have.

**Main definitions.**

* `Encoding` is the type of encodings, `Encoding.Fault` is why a text cannot be encoded.
* `Encoding.letterwise` encodes letter by letter.
* `Encoding.utf8` has every character, `Encoding.limited` only the first few of all.
-/

namespace ScenarioScript

/-- **Why a text cannot be encoded**: a run of letters that the encoding does not have. -/
structure Encoding.Fault where
  /-- The name of the encoding. -/
  encoding : Text
  reason : Text
  position : Nat
  first : Letter
  length : Nat
deriving Repr, DecidableEq

/-- **Encodings.** -/
abbrev Encoding := Text → Except Encoding.Fault Bytes

namespace Encoding

/-- **The wording of a fault.** -/
def Fault.message (fault : Fault) : Text :=
  let place :=
    if fault.length = 1 then
      "character '".toText ++ Text.codePointEscape fault.first ++ "' in position ".toText
        ++ Text.ofNat fault.position
    else
      "characters in position ".toText ++ Text.ofNat fault.position ++ char '-'
        :: Text.ofNat (fault.position + fault.length - 1)
  "'".toText ++ fault.encoding ++ "' codec can't encode ".toText ++ place ++ ": ".toText
    ++ fault.reason

/-- **Encoding letter by letter**, where `bytes` has the bytes of each letter of the encoding.  The
    fault covers the letter that stops it and those behind it that are faulty as well. -/
def letterwise (name reason : Text) (bytes : Letter → Option Bytes) (isFaulty : Letter → Bool) :
    Encoding := fun text =>
  let known := text.takeWhile fun c => (bytes c).isSome
  match text.dropWhile fun c => (bytes c).isSome with
  | [] => .ok (known.flatMap fun c => (bytes c).getD [])
  | first :: rest =>
    .error ⟨name, reason, known.length, first, 1 + (rest.takeWhile isFaulty).length⟩

/-- **UTF-8** has all characters, but no half of a surrogate pair. -/
def utf8 : Encoding :=
  letterwise "utf-8".toText "surrogates not allowed".toText
    (fun
      | .char c => some (String.utf8EncodeChar c)
      | .half _ => none)
    Letter.isHalf

/-- **The encoding of file names**: UTF-8, where some of the halves stand for single bytes. -/
def fileName : Encoding :=
  letterwise "utf-8".toText "surrogates not allowed".toText
    (fun
      | .char c => some (String.utf8EncodeChar c)
      | .half index =>
        if 0x480 ≤ index.val && index.val < 0x500 then some [UInt8.ofNat (index.val - 0x400)]
        else none)
    Letter.isHalf

/-- **An encoding with one byte for each letter**, which has the first `limit` of them. -/
def limited (name : Text) (limit : Nat) : Encoding :=
  letterwise name ("ordinal not in range(".toText ++ Text.ofNat limit ++ [char ')'])
    (fun c => if c.toNat < limit then some [UInt8.ofNat c.toNat] else none)
    fun c => limit ≤ c.toNat

def latin1 : Encoding :=
  limited "latin-1".toText 256

def ascii : Encoding :=
  limited "ascii".toText 128

end Encoding

end ScenarioScript
