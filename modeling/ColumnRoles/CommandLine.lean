import ColumnRoles.CommandLine.Arguments
import ColumnRoles.CommandLine.Screen
import ColumnRoles.Engine.Document
import ColumnRoles.Json.Printer

/-!
The command line: from arguments and files to what is printed and the exit code. Nothing is printed
by a command that fails.
-/
namespace ColumnRoles.CommandLine

inductive Failure where
  /-- The arguments make no sense. -/
  | misuse
  | fileNotFound (path : String)
  | failed (error : Error)

def Failure.message : Failure → String
  | misuse => "the arguments make no sense; try --help"
  | fileNotFound path => s!"File not found: {path}"
  | failed error => error.message

def Failure.exitCode : Failure → Nat
  | misuse => 2
  | fileNotFound _ | failed _ => 1

/-- What a command sees of its surroundings. -/
structure Surroundings where
  files : Files
  /-- The present moment. -/
  now : String
  /-- Styles are wanted. -/
  color : Bool
  /-- How the patterns of configurations are compiled. -/
  compile : Naming.Compiler := .reader

def versionNumber : String := "0.1.0"

def helpText : Level → List String
  | .top =>
    ["Semantic type inference for warehouse columns", "", "Usage: colsense [OPTIONS] <COMMAND>", "",
      "Commands:", "  infer  Infer a semantic type for every column in a statistics snapshot",
      "  rules  List the rules that would run, in order"]
  | .infer =>
    ["Infer a semantic type for every column in a statistics snapshot", "",
      "Usage: colsense infer [OPTIONS] <SNAPSHOT>"]
  | .rules =>
    ["List the rules that would run, in order", "", "Usage: colsense rules [OPTIONS]"]

def loadConfig (files : Files) : Option String → Except Error RulesetConfig
  | none => .ok {}
  | some path => do RulesetConfig.ofText (← (files.readText path).mapError (.file path))

def inferFile (here : Surroundings) (options : InferOptions) : Except Error FileReport := do
  let ruleset ← loadConfig here.files options.config
  let engine ← Engine.create { ruleset, runner := { parallel := options.parallel } } here.compile
  engine.inferFile here.files here.now options.file

def inferCommand (here : Surroundings) (options : InferOptions) :
    Except Failure (List String) := do
  if !here.files.exists? options.file then .error (.fileNotFound options.file)
  else
    let outcome ← (inferFile here options).mapError .failed
    if options.json then .ok [outcome.toJson.pretty]
    else .ok (inferLines here.color options.verbose options.unresolvedOnly options.file outcome)

def rulesCommand (here : Surroundings) (options : RulesOptions) :
    Except Failure (List String) := do
  let config ← (loadConfig here.files options.config).mapError .failed
  let rules ← (config.ruleset here.compile).mapError .failed
  .ok (rulesLines here.color options.verbose config rules)

def answer (here : Surroundings) : Request → Except Failure (List String)
  | .infer options => inferCommand here options
  | .rules options => rulesCommand here options
  | .version level =>
    let name := level.name
    .ok [s!"{name} {versionNumber}"]
  | .help level => .ok (helpText level)
  | .misuse => .error .misuse

/-- Run the program. -/
def run (here : Surroundings) (arguments : List String) : Except Failure (List String) :=
  answer here (Request.ofArguments arguments)

def printed (lines : List String) : String :=
  String.join (lines.map (· ++ "\n"))

end ColumnRoles.CommandLine
