import ScenarioScript.Text.Integer
import ScenarioScript.Text.Quoted

/-!
# Arguments of a command line

A grammar lists the switches of a program and what it takes besides them.  First every argument is
read by itself: it is a switch, possibly shortened or with a value attached, or a word, or the
double dash after which everything is a word.  Then the arguments are taken from left to right.

**Main definitions.**

* `Grammar` is the grammar of a program.
* `Grammar.reading` reads one argument by itself.
* `Grammar.cluster` takes apart several one-letter switches in one argument.
* `Grammar.parse` takes the arguments, `UsageFault` is why that can fail.
-/

namespace ScenarioScript

namespace CommandLine

/-! ## Grammars -/

/-- **What a switch takes.** -/
inductive Arity where
  | flag
  | value
  /-- Nothing; it asks for help and ends the run. -/
  | help
deriving Repr, DecidableEq

/-- **A switch**: its names, each with its dashes. -/
structure Switch where
  names : List Text
  arity : Arity
deriving Repr, DecidableEq

/-- How a switch is called in messages. -/
def Switch.title (switch : Switch) : Text :=
  List.intercalate [char '/'] switch.names

/-- **What a program takes besides switches.** -/
inductive Operand where
  | word (name : Text)
  /-- One of several commands, and all arguments behind it. -/
  | command (name : Text) (choices : List Text)
deriving Repr, DecidableEq

/-- How an operand is called in messages. -/
def Operand.name : Operand → Text
  | .word name => name
  | .command name _ => name

/-- **The grammar of a program.** -/
structure Grammar where
  program : Text
  switches : List Switch
  operand : Option Operand
deriving Repr, DecidableEq

/-! ## Faults -/

/-- **Why arguments cannot be taken.** -/
inductive UsageFault where
  | ambiguous (argument : Text) (candidates : List Text)
  | expectedValue (switch : Switch)
  /-- A switch has a value attached that it does not take. -/
  | ignoredValue (switch : Switch) (value : Text)
  | missing (operand : Text)
  | invalidChoice (operand value : Text) (choices : List Text)
  | unrecognized (arguments : List Text)
deriving Repr, DecidableEq

/-- **The wording of a usage fault.** -/
def UsageFault.message : UsageFault → Text
  | .ambiguous argument candidates =>
    "ambiguous option: ".toText ++ argument ++ " could match ".toText
      ++ List.intercalate ", ".toText candidates
  | .expectedValue switch =>
    "argument ".toText ++ switch.title ++ ": expected one argument".toText
  | .ignoredValue switch value =>
    "argument ".toText ++ switch.title ++ ": ignored explicit argument ".toText
      ++ Text.quoted value
  | .missing operand => "the following arguments are required: ".toText ++ operand
  | .invalidChoice operand value choices =>
    "argument ".toText ++ operand ++ ": invalid choice: ".toText ++ Text.quoted value
      ++ " (choose from ".toText
      ++ List.intercalate ", ".toText (choices.map Text.quoted) ++ [char ')']
  | .unrecognized arguments =>
    "unrecognized arguments: ".toText ++ List.intercalate [char ' '] arguments

/-- **Why a run ends before it starts.** -/
inductive Stop where
  | help (program : Text)
  | usage (program : Text) (fault : UsageFault)
deriving Repr, DecidableEq

/-- The line that ends the message about a usage fault. -/
def usageLine (program : Text) (fault : UsageFault) : Text :=
  program ++ ": error: ".toText ++ fault.message

/-! ## Reading arguments one by one -/

/-- **What an argument is by itself.** -/
inductive Reading where
  | word
  | separator
  /-- A switch, the name that it was found by, and what is attached to it. -/
  | switch (switch : Switch) (name : Text) (attached : Option Text)
  | unknown
deriving Repr, DecidableEq

/-- **An argument and what it is.** -/
structure Item where
  text : Text
  reading : Reading
deriving Repr, DecidableEq

/-- A number with a minus sign, which is a word. -/
def isNegativeNumber (argument : Text) : Bool :=
  let isDigits (text : Text) : Bool := text.all fun c => (Text.digitValue? c).isSome
  let body := if argument.getLast? = some (char '\n') then argument.dropLast else argument
  match body with
  | char '-' :: number =>
    let whole := number.takeWhile (· ≠ char '.')
    match number.dropWhile (· ≠ char '.') with
    | [] => !whole.isEmpty && isDigits whole
    | _ :: fraction => isDigits whole && !fraction.isEmpty && isDigits fraction
  | _ => false

/-- A text up to its first equals sign, and what follows the sign if there is one. -/
def splitEquals (text : Text) : Text × Option Text :=
  (text.takeWhile (· ≠ char '='), (text.dropWhile (· ≠ char '=')).tail?)

namespace Grammar

/-- All names with their switches, in the order of the grammar. -/
def names (grammar : Grammar) : List (Text × Switch) :=
  grammar.switches.flatMap fun switch => switch.names.map (·, switch)

def switch? (grammar : Grammar) (name : Text) : Option Switch :=
  (grammar.names.find? fun entry => entry.1 = name).map (·.2)

/-- **What an argument can stand for** that is not the exact name of a switch: a beginning of a long
    name, or a one-letter name with something attached. -/
def candidates (grammar : Grammar) (argument : Text) : List (Text × Reading) :=
  match argument with
  | char '-' :: char '-' :: _ =>
    let (beginning, value) := splitEquals argument
    (grammar.names.filter fun entry => Text.startsWith beginning entry.1).map
      fun (name, switch) => (name, .switch switch name value)
  | char '-' :: letter :: attached =>
    (grammar.names.filter fun entry => entry.1 = [char '-', letter]).map
      fun (name, switch) => (name, .switch switch name (some attached))
  | _ => []

/-- The reading of an argument that starts with a dash and is no name by itself. -/
def dashedReading (grammar : Grammar) (argument : Text) : Except UsageFault Reading :=
  match splitEquals argument with
  | (name, some value) =>
    match grammar.switch? name with
    | some switch => .ok (.switch switch name (some value))
    | none => shortened
  | _ => shortened
where
  /-- The reading of an argument as a shortened name. -/
  shortened : Except UsageFault Reading :=
    match grammar.candidates argument with
    | [(_, reading)] => .ok reading
    | [] =>
      if isNegativeNumber argument || argument.contains (char ' ') then .ok .word else .ok .unknown
    | several => .error (.ambiguous argument (several.map (·.1)))

/-- **What an argument is by itself.** -/
def reading (grammar : Grammar) (argument : Text) : Except UsageFault Reading :=
  if argument.head? ≠ some (char '-') then .ok .word
  else
    match grammar.switch? argument with
    | some switch => .ok (.switch switch argument none)
    | none => if argument.length = 1 then .ok .word else grammar.dashedReading argument

/-- **Reads all arguments**; behind the double dash everything is a word. -/
def items (grammar : Grammar) : List Text → Except UsageFault (List Item)
  | [] => .ok []
  | argument :: rest =>
    if argument = [char '-', char '-'] then .ok (⟨argument, .separator⟩ :: rest.map (⟨·, .word⟩))
    else
      match grammar.reading argument with
      | .error fault => .error fault
      | .ok reading => (grammar.items rest).map (⟨argument, reading⟩ :: ·)

/-! ## Taking arguments -/

/-- **The switches of one argument**: those that are complete, and the last one if it has nothing
    attached. -/
structure Cluster where
  taken : List (Switch × Option Text)
  /-- The last switch, if it may take its value from the next argument. -/
  open? : Option Switch

/-- **Takes apart what is attached to a switch.** A switch that takes a value takes all of it.  One
    that takes none has to have a one-letter name, and what is attached starts with the letter of
    the next switch. -/
def cluster (grammar : Grammar) (switch : Switch) (name : Text) :
    (attached : Text) → Except UsageFault Cluster
  | [] =>
    if switch.arity = .value then .ok ⟨[(switch, some [])], none⟩
    else .error (.ignoredValue switch [])
  | letter :: rest =>
    if switch.arity = .value then .ok ⟨[(switch, some (letter :: rest))], none⟩
    else if Text.startsWith [char '-', char '-'] name then
      .error (.ignoredValue switch (letter :: rest))
    else
      match grammar.switch? [char '-', letter], rest with
      | none, _ => .error (.ignoredValue switch (letter :: rest))
      | some next, [] => .ok ⟨[(switch, none)], some next⟩
      | some next, rest =>
        (grammar.cluster next [char '-', letter] rest).map fun found =>
          { found with taken := (switch, none) :: found.taken }

/-- The cluster of an argument that was read as a switch. -/
def clusterOf (grammar : Grammar) (switch : Switch) (name : Text) :
    Option Text → Except UsageFault Cluster
  | none => .ok ⟨[], some switch⟩
  | some attached => grammar.cluster switch name attached

end Grammar

/-- **What was taken.** -/
structure Taken where
  /-- The switches with their values, in order. -/
  switches : List (Switch × Option Text) := []
  /-- The operand: a word, or a command and all arguments behind it. -/
  operand : Option (List Text) := none
  extras : List Text := []

namespace Taken

def has (taken : Taken) (name : Text) : Bool :=
  taken.switches.any fun (switch, _) => switch.names.contains name

def value? (taken : Taken) (name : Text) : Option Text :=
  (taken.switches.filterMap fun (switch, value) =>
    if switch.names.contains name then value else none).getLast?

end Taken

namespace Grammar

/-- Adds switches in front of what the rest of the arguments gives, unless one asks for help. -/
def addSwitches (grammar : Grammar) (switches : List (Switch × Option Text))
    (rest : Except Stop Taken) : Except Stop Taken :=
  if switches.any fun (switch, _) => switch.arity = .help then .error (.help grammar.program)
  else rest.map fun taken => { taken with switches := switches ++ taken.switches }

def addExtras (extras : List Text) (rest : Except Stop Taken) : Except Stop Taken :=
  rest.map fun taken => { taken with extras := extras ++ taken.extras }

def addOperand (operand : List Text) (rest : Except Stop Taken) : Except Stop Taken :=
  rest.map fun taken => { taken with operand := some operand }

/-- **Takes arguments from left to right.** `awaited` is the operand as long as it has not been
    found. -/
def take (grammar : Grammar) : (awaited : Option Operand) → List Item → Except Stop Taken
  | _, [] => .ok {}
  | awaited, ⟨text, .unknown⟩ :: rest => addExtras [text] (grammar.take awaited rest)
  | awaited, ⟨_, .switch switch name attached⟩ :: rest =>
    match grammar.clusterOf switch name attached with
    | .error fault => .error (.usage grammar.program fault)
    | .ok ⟨taken, none⟩ => grammar.addSwitches taken (grammar.take awaited rest)
    | .ok ⟨taken, some last⟩ =>
      if last.arity = .value then
        match rest with
        | ⟨value, .word⟩ :: rest =>
          grammar.addSwitches (taken ++ [(last, some value)]) (grammar.take awaited rest)
        | _ => .error (.usage grammar.program (.expectedValue last))
      else grammar.addSwitches (taken ++ [(last, none)]) (grammar.take awaited rest)
  | some (.word _), ⟨text, .word⟩ :: ⟨_, .separator⟩ :: rest =>
    addOperand [text] (grammar.take none rest)
  | some (.word _), ⟨text, .word⟩ :: rest => addOperand [text] (grammar.take none rest)
  | some (.word _), ⟨_, .separator⟩ :: ⟨text, _⟩ :: rest =>
    addOperand [text] (grammar.take none rest)
  | some (.command _ _), ⟨text, .word⟩ :: rest =>
    .ok { operand := some (text :: rest.map (·.text)) }
  | some (.command _ _), ⟨text, .separator⟩ :: item :: rest =>
    .ok { operand := some (text :: item.text :: rest.map (·.text)) }
  | awaited, ⟨text, _⟩ :: rest => addExtras [text] (grammar.take awaited rest)

/-- Whether the operand is there and, if it is a command, one of those that there are. -/
def checkOperand (grammar : Grammar) (taken : Taken) : Except UsageFault Unit :=
  match grammar.operand, taken.operand with
  | none, _ => .ok ()
  | some operand, none => .error (.missing operand.name)
  | some (.word _), some _ => .ok ()
  | some (.command name choices), some given =>
    let command := given.headD []
    if choices.contains command then .ok () else .error (.invalidChoice name command choices)

/-- **Takes the arguments of a program.** -/
def parse (grammar : Grammar) (arguments : List Text) : Except Stop Taken :=
  match grammar.items arguments with
  | .error fault => .error (.usage grammar.program fault)
  | .ok items =>
    match grammar.take grammar.operand items with
    | .error stop => .error stop
    | .ok taken =>
      match grammar.checkOperand taken with
      | .error fault => .error (.usage grammar.program fault)
      | .ok () => .ok taken

end Grammar

end CommandLine

end ScenarioScript
