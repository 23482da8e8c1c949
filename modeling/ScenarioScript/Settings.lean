import ScenarioScript.Text
import ScenarioScript.Text.Integer

/-!
# Settings

How scripts are laid out and how generous suggestions are.

**Main definitions.**

* `Settings` are the settings, with their defaults.
* `Environment` holds the variables that can change them.
* `Settings.ofEnvironment` reads the variables.
-/

namespace ScenarioScript

/-- **The settings.** -/
structure Settings where
  /-- What a line is indented by at each step. -/
  indent : Text := "  ".toText
  /-- The greatest distance at which a template is suggested. -/
  threshold : Int := 10
  /-- Whether a script starts with the line that names the types. -/
  referenceTypes : Bool := true
deriving Repr, DecidableEq

/-- **The variables of the environment** that are looked at; `none` for one that is not set. -/
structure Environment where
  /-- The number of blanks to indent by. -/
  indentWidth : Option Text := none
  threshold : Option Text := none
  referenceTypes : Option Text := none
deriving Repr, DecidableEq

/-- **Why the environment cannot be used.** -/
inductive SettingsFault where
  | notInteger (fault : Text.IntegerFault)
  /-- The width does not fit into a machine word. -/
  | widthOutOfRange
deriving Repr, DecidableEq

/-- **The wording of a settings fault.** -/
def SettingsFault.message : SettingsFault → Text
  | .notInteger fault => "Invalid cygen environment setting: ".toText ++ fault.message
  | .widthOutOfRange => "cannot fit 'int' into an index-sized integer".toText

namespace Settings

/-- The integer in a variable, or a default if the variable is not set or empty. -/
def readVariable (variableText : Option Text) (default : Int) : Except SettingsFault Int :=
  match variableText with
  | none | some [] => .ok default
  | some text => (Text.readInteger text).mapError .notInteger

/-- Two to the power 63: the least magnitude that a signed word of 64 bits has no room for as a
    positive number. -/
def wordBound : Int :=
  0x8000000000000000

/-- Whether a width fits into a signed word of 64 bits. -/
def isWordSized (width : Int) : Bool :=
  -wordBound ≤ width && width < wordBound

/-- The values that switch a setting off. -/
def negatives : List Text :=
  ["0".toText, "false".toText, "no".toText]

/-- **The settings of an environment.** The width is read before the threshold. -/
def ofEnvironment (environment : Environment) : Except SettingsFault Settings :=
  match readVariable environment.indentWidth 2 with
  | .error fault => .error fault
  | .ok width =>
    if !isWordSized width then .error .widthOutOfRange
    else
      match readVariable environment.threshold 10 with
      | .error fault => .error fault
      | .ok threshold =>
        .ok {
          indent := Text.times [char ' '] width
          threshold
          referenceTypes := match environment.referenceTypes with
            | none => true
            | some text => !negatives.contains (Text.lower (Text.strip text)) }

end Settings

end ScenarioScript
