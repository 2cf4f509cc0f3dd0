import DocQuery.Command.Arguments
import DocQuery.Document.Basic
import DocQuery.Edit.Write
import DocQuery.Expression.Evaluation
import DocQuery.Path.Compile

/-!
# Running Commands

Commands turn the text of an input document into text for output, or fail.  A run reports what
goes to the output, what goes to the error output, and the exit code: 0 for success, 1 for a
failed command, 2 for a command line that cannot be understood, and 101 where the program stops
without an answer.

## Main definitions

- `CommandError`: why a command fails
- `runGet`, `runPut`, `runEval`, `runExplain`: the commands
- `Command.run`, `Stop.report`: what a run reports
-/

namespace DocQuery.Command

open DocQuery.Json DocQuery.Edit DocQuery.Expression

/-! ## Errors -/

/-- Why a command fails. -/
inductive CommandError where
  | query (e : QueryError)
  | edit (e : EditError)
  | expression (e : ExprError)
  | json
  /-- The input cannot be read, for the given reason -/
  | unreadable (reason : String)
  | noInput

/-- What an error reads like. -/
def CommandError.message : CommandError → String
  | query e => "Query error: " ++ e.message
  | edit e => "Query error: " ++ e.message
  | expression e => "Expression error: " ++ e.message
  | json => "Invalid JSON"
  | unreadable reason => "IO error: " ++ reason
  | noInput => "No input provided. Use --input, --file or pipe JSON to stdin."

/-- The error that stops the program, if there is one: it is not wrapped as the others are. -/
def CommandError.stop? : CommandError → Option QueryError
  | query e | edit (.lookup e) => if e.stops then some e else none
  | _ => none

/-! ## The commands -/

/-- The document that the input stands for. -/
def load (input? : Option String) : Except CommandError Document :=
  match input? with
  | none => .error .noInput
  | some text =>
    match Document.ofText? {} text with
    | some d => .ok d
    | none => .error .json

/-- The style of the output. -/
def style (pretty : Bool) : Style := if pretty then .indented else .compact

/-- The text of a document for output. -/
def output (pretty : Bool) (d : Document) : String := d.store.interchange (style pretty) d.root

/-- Shows what a path finds. -/
def runGet (input? : Option String) (path : String) (pretty : Bool) :
    Except CommandError String := do
  let d ← load input?
  let found ← (d.get path).mapError .query
  return output pretty found

/-- Writes the value of a JSON text at a target and shows the document. -/
def runPut (input? : Option String) (target value : String) (pretty keep : Bool) :
    Except CommandError String := do
  let d ← load input?
  match d.store.loadText? value with
  | none => .error .json
  | some (v, s) =>
    match s.putIn d.root target (if keep then .keep else .replace) v with
    | ⟨s, none⟩ => return output pretty { d with store := s }
    | ⟨_, some e⟩ => .error (.edit e)

/-- Evaluates an expression. -/
def runEval (expression : String) : Except CommandError Bool :=
  (Expression.evaluate expression).mapError .expression

/-- Shows the segments of a path. -/
def runExplain (path : String) : Except CommandError String :=
  (Path.explain path).mapError .query

/-! ## Runs -/

/-- What a run leaves behind. -/
structure Report where
  code : Nat
  /-- What goes to standard output -/
  output : String := ""
  /-- What goes to the error output -/
  errors : String := ""
deriving DecidableEq

/-- The name and the version of the program. -/
def versionLine : String := "jsonq 0.1.0\n"

/-- How the program is used. -/
def usageLines : String :=
  "Usage: jsonq [-v] <COMMAND>\n\n" ++
  "Commands:\n" ++
  "  get <PATH>          Evaluate a path against a JSON document\n" ++
  "  explain <PATH>      Show how a path splits into segments\n" ++
  "  eval <EXPRESSION>   Evaluate a boolean filter expression\n" ++
  "  put <PATH> <VALUE>  Write a value into a JSON document and print the result\n" ++
  "  help                Print this help\n\n" ++
  "Options of get and put:\n" ++
  "  -i, --input <TEXT>  JSON input (standard input if neither this nor --file is given)\n" ++
  "  -f, --file <FILE>   Read JSON input from a file\n" ++
  "  -p, --pretty        Pretty-print the output\n" ++
  "      --keep          Do not replace an existing member (put only)\n"

/-- The report on a command line that names no command. -/
def Stop.report : Stop → Report
  | usage => ⟨2, "", usageLines⟩
  | help => ⟨0, usageLines, ""⟩
  | version => ⟨0, versionLine, ""⟩

/-- Where the input document of a command comes from, if it has one. -/
def source? : Command → Option Source
  | get _ source _ | put _ _ source _ _ => some source
  | eval _ | explain _ => none

/-- The output of a command on an input.  There is no input when it would come from a
terminal. -/
def result (input : Except CommandError (Option String)) :
    Command → Except CommandError String
  | get path _ pretty => do return (← runGet (← input) path pretty) ++ "\n"
  | put target value _ pretty keep => do
    return (← runPut (← input) target value pretty keep) ++ "\n"
  | eval expression => do
    return (if ← runEval expression then "true" else "false") ++ "\n"
  | explain path => runExplain path

/-- The report on a command. -/
def run (input : Except CommandError (Option String)) (command : Command) : Report :=
  match command.result input with
  | .ok text => ⟨0, text, ""⟩
  | .error e =>
    match e.stop? with
    | some stop => ⟨101, "", stop.message ++ "\n"⟩
    | none => ⟨1, "", e.message ++ "\n"⟩

end DocQuery.Command
