import ScenarioScript.Json

/-!
# Writing JSON

Values are written on one line in printable ASCII.  A comma and a colon are followed by a space, and
every letter outside the range from space to tilde is written as an escape.

**Main definitions.**

* `Json.writeString` writes a string.
* `Json.write` writes a value.
-/

namespace ScenarioScript

namespace Json

/-- A UTF-16 unit as an escape. -/
def unitEscape (unit : Nat) : Text :=
  [char '\\', char 'u'] ++ Text.hexadecimal 4 unit

/-- **One letter of a string.** The common controls have short escapes; a character beyond the
    first plane is written as a pair of surrogates. -/
def writeChar (c : Letter) : Text :=
  if c = char '"' then [char '\\', char '"']
  else if c = char '\\' then [char '\\', char '\\']
  else if c = char '\n' then [char '\\', char 'n']
  else if c = char '\r' then [char '\\', char 'r']
  else if c = char '\t' then [char '\\', char 't']
  else if c.toNat = 0x08 then [char '\\', char 'b']
  else if c.toNat = 0x0C then [char '\\', char 'f']
  else if 0x20 ≤ c.toNat && c.toNat ≤ 0x7E then [c]
  else if c.toNat < 0x10000 then unitEscape c.toNat
  else
    let offset := c.toNat - 0x10000
    unitEscape (0xD800 + offset / 0x400) ++ unitEscape (0xDC00 + offset % 0x400)

/-- **A string** between double quotes. -/
def writeString (value : Text) : Text :=
  char '"' :: Text.replaceEach writeChar value ++ [char '"']

mutual

/-- **Writing a value.** -/
def write : Json → Text
  | .null => "null".toText
  | .bool true => "true".toText
  | .bool false => "false".toText
  | .integer value => Text.decimal value
  | .decimal literal => literal
  | .string value => writeString value
  | .array items => char '[' :: writeItems items ++ [char ']']
  | .object fields => char '\x7b' :: writeFields fields ++ [char '\x7d']

/-- The items of a list, separated by commas. -/
def writeItems : List Json → Text
  | [] => []
  | [item] => item.write
  | item :: items => item.write ++ [char ',', char ' '] ++ writeItems items

/-- The fields of an object, separated by commas. -/
def writeFields : List (Text × Json) → Text
  | [] => []
  | [field] => writeField field
  | field :: fields => writeField field ++ [char ',', char ' '] ++ writeFields fields

def writeField : Text × Json → Text
  | (key, value) => writeString key ++ [char ':', char ' '] ++ value.write

end

end Json

end ScenarioScript
