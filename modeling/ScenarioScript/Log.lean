import ScenarioScript.Json.Printer

/-!
# Log records

A record has a level, the name of its logger and a message, and it is attributed to the scenario
that was being compiled.  It is written either as a line for people or as a JSON object for
collectors.

While a scenario is being compiled its name is current.  Contexts nest: leaving one brings back the
name that was current when it was entered.

**Main definitions.**

* `Log.levelName` names a level.
* `Log.Record` is a record, `Log.Attribution` what it says about the scenario.
* `Log.Record.readable` and `Log.Record.structured` write it.
* `Log.Sink` decides which records are written and how.
* `Log.Context` is the current name with those that come back later; `Log.Context.enter`,
  `Log.Context.exit` and `Log.Context.setName` change it.
* `Log.Context.attributed` attributes a record.

**Main statement.** `Log.Context.exit_enter`: entering and leaving changes nothing.
-/

namespace ScenarioScript

namespace Log

/-! ## Levels -/

/-- Details for developers. -/
def debug : Int := 10

/-- What was done. -/
def info : Int := 20

/-- What deserves attention. -/
def warning : Int := 30

/-- What went wrong. -/
def error : Int := 40

/-- **The name of a level**; a level without a name of its own is called by its number. -/
def levelName (level : Int) : Text :=
  if level = 0 then "NOTSET".toText
  else if level = debug then "DEBUG".toText
  else if level = info then "INFO".toText
  else if level = warning then "WARNING".toText
  else if level = error then "ERROR".toText
  else if level = 50 then "CRITICAL".toText
  else "Level ".toText ++ Text.decimal level

/-! ## Records -/

/-- **What a record says about the scenario.** -/
inductive Attribution where
  | missing
  | unnamed
  | scenario (name : Text)
deriving Repr, DecidableEq

/-- **A log record.** -/
structure Record where
  logger : Text
  level : Int
  message : Text
  attribution : Attribution := .missing
  /-- More fields for the JSON form, a later one with the same key taking precedence. -/
  extra : List (Text × Json) := []
  exception : Option Text := none
deriving Repr

namespace Record

/-- **The line for people**: padded level, scenario, logger and message, and the exception on lines
    of its own. -/
def readable (record : Record) : Text :=
  let scenario := match record.attribution with
    | .missing => [char '-']
    | .unnamed => "None".toText
    | .scenario name => name
  let line := Text.padRight 7 (levelName record.level) ++ " [".toText ++ scenario ++ "] ".toText
    ++ record.logger ++ ": ".toText ++ record.message
  match record.exception with
  | none => line
  | some exception => line ++ char '\n' :: exception

/-- The fields that every record has in its JSON form. -/
def standardFields (timestamp : Text) (record : Record) : List (Text × Json) :=
  [("timestamp".toText, .string timestamp), ("level".toText, .string (levelName record.level)),
    ("logger".toText, .string record.logger), ("message".toText, .string record.message),
    ("scenario".toText, match record.attribution with
      | .scenario name => .string name
      | _ => .null)]

/-- **All fields of the JSON form**: the standard ones, then the extra ones, then the exception; a
    key that comes again keeps its place and takes the new value. -/
def fields (timestamp : Text) (record : Record) : List (Text × Json) :=
  let fields := Association.putAll (record.standardFields timestamp) record.extra
  match record.exception with
  | none => fields
  | some exception => Association.put "exception".toText (.string exception) fields

/-- **The JSON form** of a record. -/
def structured (timestamp : Text) (record : Record) : Text :=
  (Json.object (record.fields timestamp)).write

end Record

/-! ## Sinks -/

/-- **Where records go**: which levels are written, and in which form. -/
structure Sink where
  /-- The least level that is written; zero stands for that of warnings. -/
  level : Int := info
  json : Bool := false
deriving Repr, DecidableEq

namespace Sink

/-- **Whether records of a level are written.** A level that is not positive never is. -/
def accepts (sink : Sink) (level : Int) : Bool :=
  0 < level && (if sink.level = 0 then warning else sink.level) ≤ level

/-- The line that a sink writes for a record; nothing for one that it does not accept. -/
def write (sink : Sink) (timestamp : Text) (record : Record) : Text :=
  if sink.accepts record.level then
    (if sink.json then record.structured timestamp else record.readable) ++ [char '\n']
  else []

end Sink

/-! ## The scenario that records belong to -/

/-- **The current scenario** and, innermost first, the names that come back when contexts are
    left. -/
structure Context where
  name : Option Text := none
  /-- The names that were current when the open contexts were entered. -/
  outer : List (Option Text) := []
deriving Repr, DecidableEq

namespace Context

/-- An empty name is no name. -/
def nonEmpty : Option Text → Option Text
  | some [] => none
  | name => name

/-- **Entering a context** with a name of its own. -/
def enter (context : Context) (name : Option Text) : Context :=
  ⟨nonEmpty name, context.name :: context.outer⟩

/-- **Leaving the innermost context**; without one nothing happens. -/
def exit (context : Context) : Context :=
  match context.outer with
  | [] => context
  | name :: outer => ⟨name, outer⟩

def setName (context : Context) (name : Option Text) : Context :=
  { context with name := nonEmpty name }

/-- Leaving a context that has just been entered brings everything back. -/
@[simp] theorem exit_enter (context : Context) (name : Option Text) :
    (context.enter name).exit = context := rfl

/-- **Attributing a record** to the current scenario; without one it belongs to `-`. -/
def attributed (context : Context) (record : Record) : Record :=
  { record with attribution := .scenario (context.name.getD [char '-']) }

end Context

end Log

end ScenarioScript
