import DocQuery.Text.Cut

/-!
# Command Lines

A command line names a command and gives its operands and switches.  Switches have a long name
behind two hyphens, a letter behind one hyphen, or both; letters can be run together.  The
value of a switch is the next argument, or stands behind the name after an equals sign, or
directly behind the letter.  Behind a lone pair of hyphens there are only operands.

Arguments are read from left to right, and the first one that asks for help or for the version,
or cannot be understood, ends the reading.

## Main definitions

- `Command`: the commands
- `Switch`, `Form`: switches, and the operands and switches that a command has
- `Command.parse`: the command that a command line means
-/

namespace DocQuery

open DocQuery.Text

namespace Command

/-! ## Commands -/

/-- Where the input document comes from. -/
inductive Source where
  | given (text : String)
  | file (path : String)
  | standard
deriving DecidableEq

end Command

open Command in
/-- What is to be done. -/
inductive Command where
  /-- Show what a path finds -/
  | get (path : String) (source : Source) (pretty : Bool)
  /-- Write a value at a target and show the document -/
  | put (target value : String) (source : Source) (pretty keep : Bool)
  | eval (expression : String)
  /-- Show the segments of a path -/
  | explain (path : String)
deriving DecidableEq

namespace Command

/-- Why a command line names no command. -/
inductive Stop where
  /-- It cannot be understood -/
  | usage
  | help
  | version
deriving DecidableEq

/-! ## Switches -/

/-- What can be set on a command line besides the operands. -/
inductive Switch where
  /-- The text of the input document -/
  | input
  | file
  /-- Output on several lines -/
  | pretty
  /-- Leave alone what is there -/
  | keep
  /-- More messages -/
  | verbose
  | help
  | version
deriving DecidableEq

namespace Switch

/-- The name of a switch behind two hyphens. -/
def name : Switch → List Char
  | input => "input".toList
  | file => "file".toList
  | pretty => "pretty".toList
  | keep => "keep".toList
  | verbose => "verbose".toList
  | help => "help".toList
  | version => "version".toList

/-- The letter of a switch behind one hyphen. -/
def letter? : Switch → Option Char
  | input => some 'i'
  | file => some 'f'
  | pretty => some 'p'
  | keep => none
  | verbose => some 'v'
  | help => some 'h'
  | version => some 'V'

/-- Whether a switch has a value. -/
def takesValue : Switch → Bool
  | input | file => true
  | _ => false

/-- Whether a switch may have this value; a file has to have a name. -/
def accepts : Switch → List Char → Bool
  | file, value => !value.isEmpty
  | _, _ => true

end Switch

/-- The operands and switches that a command has. -/
structure Form where
  operands : Nat
  switches : List Switch

namespace Form

/-- What can stand in front of the name of a command. -/
def outer : Form := ⟨0, [.verbose, .help, .version]⟩

/-- `get PATH` -/
def get : Form := ⟨1, [.input, .file, .pretty, .verbose, .help]⟩

/-- `put PATH VALUE` -/
def put : Form := ⟨2, [.input, .file, .pretty, .keep, .verbose, .help]⟩

/-- `eval EXPRESSION` and `explain PATH` -/
def plain : Form := ⟨1, [.verbose, .help]⟩

/-- The switch of a long name. -/
def named? (form : Form) (name : List Char) : Option Switch :=
  form.switches.find? fun switch => switch.name == name

/-- The switch of a letter. -/
def lettered? (form : Form) (letter : Char) : Option Switch :=
  form.switches.find? fun switch => switch.letter? == some letter

end Form

/-! ## Reading arguments -/

/-- What has been read of a command line. -/
structure Reading where
  /-- The operands so far -/
  operands : List (List Char) := []
  /-- The switches so far, with their values -/
  set : List (Switch × List Char) := []

namespace Reading

/-- The value of a switch that was set. -/
def value? (r : Reading) (switch : Switch) : Option (List Char) :=
  (r.set.find? fun s => s.1 == switch).map Prod.snd

/-- Whether a switch was set. -/
def has (r : Reading) (switch : Switch) : Bool := (r.value? switch).isSome

/-- Takes another operand, if there may be one more. -/
def addOperand (form : Form) (r : Reading) (operand : List Char) : Except Stop Reading :=
  if r.operands.length < form.operands then
    .ok { r with operands := r.operands ++ [operand] }
  else .error .usage

/-- Sets a switch.  Only the one for more messages can be set more than once. -/
def addSwitch (r : Reading) (switch : Switch) (value : List Char) : Except Stop Reading :=
  match switch with
  | .help => .error .help
  | .version => .error .version
  | .verbose => .ok r
  | switch =>
    if r.has switch || !switch.accepts value then .error .usage
    else .ok { r with set := r.set ++ [(switch, value)] }

end Reading

/-- The value behind a letter, in which an equals sign may come first. -/
def attached : List Char → List Char
  | '=' :: value => value
  | value => value

/-- Reads the letters behind one hyphen.  If the last of them still needs its value, that
switch is given too. -/
def readLetters (form : Form) (r : Reading) : List Char → Except Stop (Reading × Option Switch)
  | [] => .ok (r, none)
  | c :: cs =>
    match form.lettered? c with
    | none => .error .usage
    | some switch =>
      if switch.takesValue then
        if cs.isEmpty then .ok (r, some switch)
        else (r.addSwitch switch (attached cs)).map (·, none)
      else do
        let r ← r.addSwitch switch []
        readLetters form r cs

/-- Reads the name behind two hyphens, and its value behind an equals sign.  If the switch
still needs its value, it is given too. -/
def readName (form : Form) (r : Reading) (text : List Char) :
    Except Stop (Reading × Option Switch) :=
  let (name, value?) := match cutFirst? '=' text with
    | some (name, value) => (name, some value)
    | none => (text, none)
  match form.named? name, value? with
  | none, _ => .error .usage
  | some switch, some value =>
    if switch.takesValue then (r.addSwitch switch value).map (·, none) else .error .usage
  | some switch, none =>
    if switch.takesValue then .ok (r, some switch)
    else (r.addSwitch switch []).map (·, none)

/-- How an argument is taken. -/
inductive Shape where
  /-- A pair of hyphens alone -/
  | hyphens
  /-- A long name behind two hyphens -/
  | name (text : List Char)
  /-- Letters behind one hyphen -/
  | letters (text : List Char)
  /-- Anything else, also a hyphen alone -/
  | operand (text : List Char)
deriving DecidableEq

/-- How an argument is taken. -/
def Shape.of : List Char → Shape
  | ['-', '-'] => hyphens
  | '-' :: '-' :: text => name text
  | '-' :: c :: cs => letters (c :: cs)
  | text => operand text

/-- Reads operands only. -/
def readOperands (form : Form) (r : Reading) (arguments : List (List Char)) :
    Except Stop Reading :=
  arguments.foldlM (Reading.addOperand form) r

/-- Reads arguments.  While a switch waits for its value, the next argument has to be one. -/
def readArguments (form : Form) (r : Reading) (waiting : Option Switch) :
    List (List Char) → Except Stop Reading
  | [] => if waiting.isSome then .error .usage else .ok r
  | argument :: arguments =>
    match waiting, Shape.of argument with
    | some switch, .operand value => do
      let r ← r.addSwitch switch value
      readArguments form r none arguments
    | some _, _ => .error .usage
    | none, .hyphens => readOperands form r arguments
    | none, .operand text => do
      let r ← r.addOperand form text
      readArguments form r none arguments
    | none, .name text => do
      let (r, waiting) ← readName form r text
      readArguments form r waiting arguments
    | none, .letters text => do
      let (r, waiting) ← readLetters form r text
      readArguments form r waiting arguments

/-! ## Reading commands -/

/-- The source of the input document.  It cannot be given in two ways. -/
def Reading.source (r : Reading) : Except Stop Source :=
  match r.value? .input, r.value? .file with
  | some _, some _ => .error .usage
  | some text, none => .ok (.given (String.ofList text))
  | none, some path => .ok (.file (String.ofList path))
  | none, none => .ok .standard

/-- The operand of a command that has one. -/
def Reading.one (r : Reading) : Except Stop String :=
  match r.operands with
  | [a] => .ok (String.ofList a)
  | _ => .error .usage

/-- The operands of a command that has two. -/
def Reading.two (r : Reading) : Except Stop (String × String) :=
  match r.operands with
  | [a, b] => .ok (String.ofList a, String.ofList b)
  | _ => .error .usage

/-- The names of the commands. -/
def names : List (List Char) :=
  ["get".toList, "explain".toList, "eval".toList, "put".toList, "help".toList]

/-- The command of the given name. -/
def parseNamed (name : List Char) (arguments : List (List Char)) : Except Stop Command :=
  if name = "get".toList then do
    let r ← readArguments .get {} none arguments
    return .get (← r.one) (← r.source) (r.has .pretty)
  else if name = "put".toList then do
    let r ← readArguments .put {} none arguments
    let (target, value) ← r.two
    return .put target value (← r.source) (r.has .pretty) (r.has .keep)
  else if name = "eval".toList then do
    let r ← readArguments .plain {} none arguments
    return .eval (← r.one)
  else if name = "explain".toList then do
    let r ← readArguments .plain {} none arguments
    return .explain (← r.one)
  else if name = "help".toList then
    match arguments with
    | [] => .error .help
    | [about] => .error (if about ∈ names then .help else .usage)
    | _ => .error .usage
  else .error .usage

/-- The command that comes behind the switches in front of its name. -/
def parseArguments : List (List Char) → Except Stop Command
  | [] => .error .usage
  | argument :: arguments =>
    match Shape.of argument with
    | .operand name => parseNamed name arguments
    | .hyphens => .error .usage
    | .name text => do
      let _ ← readName .outer {} text
      parseArguments arguments
    | .letters text => do
      let _ ← readLetters .outer {} text
      parseArguments arguments

/-- The command that a command line means. -/
def parse (arguments : List String) : Except Stop Command :=
  parseArguments (arguments.map String.toList)

/-! ## Examples -/

/-- Letters can be run together, and a value can stand directly behind its letter. -/
example : parse ["get", "a", "-pi=1"] = .ok (Command.get "a" (.given "1") true) := by
  rfl

/-- What begins with a hyphen is no operand. -/
example : parse ["eval", "-1"] = .error .usage := by rfl

/-- Behind a pair of hyphens it is one. -/
example : parse ["eval", "--", "-1"] = .ok (Command.eval "-1") := by rfl

/-- The input cannot come from two places. -/
example : parse ["get", "a", "-i", "1", "-f", "b"] = .error .usage := by rfl

end Command

end DocQuery
