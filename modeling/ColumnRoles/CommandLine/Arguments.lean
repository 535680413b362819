/-!
The arguments of the command line. They are read from left to right; the first one that asks for
help or the version, or that makes no sense, settles the matter.
-/
namespace ColumnRoles.CommandLine

inductive Level where
  | top
  | infer
  | rules
deriving DecidableEq, Repr

def Level.name : Level → String
  | top => "colsense"
  | infer => "colsense-infer"
  | rules => "colsense-rules"

inductive Flag where
  | verbose
  | json
  | parallel
  | unresolvedOnly
deriving DecidableEq, Repr

def Level.flags : Level → List (String × Flag)
  | infer =>
    [("verbose", .verbose), ("json", .json), ("parallel", .parallel),
      ("unresolved-only", .unresolvedOnly)]
  | top | rules => [("verbose", .verbose)]

def Level.takesConfig (level : Level) : Bool :=
  level ≠ .top

structure InferOptions where
  file : String
  config : Option String
  json : Bool
  parallel : Bool
  unresolvedOnly : Bool
  verbose : Bool
deriving DecidableEq, Repr

structure RulesOptions where
  config : Option String
  verbose : Bool
deriving DecidableEq, Repr

/-- What the arguments ask for. -/
inductive Request where
  | infer (options : InferOptions)
  | rules (options : RulesOptions)
  | version (level : Level)
  | help (level : Level)
  | misuse
deriving DecidableEq, Repr

def Request.paths : Request → List String
  | infer options => options.file :: options.config.toList
  | rules options => options.config.toList
  | version _ | help _ | misuse => []

structure Reading where
  level : Level := .top
  flags : List Flag := []
  /-- A flag given above the present level counts as well. -/
  verboseAbove : Bool := false
  config : Option String := none
  file : Option String := none
  /-- The value of the configuration option is to come. -/
  awaiting : Bool := false
  /-- Nothing that follows is an option. -/
  plain : Bool := false
deriving DecidableEq, Repr

abbrev Step := Except Request Reading

namespace Reading

def addFlag (reading : Reading) (flag : Flag) : Step :=
  if flag ∈ reading.flags then .error .misuse
  else .ok { reading with flags := flag :: reading.flags }

def setConfig (reading : Reading) (path : String) : Step :=
  if path = "" || reading.config.isSome then .error .misuse
  else .ok { reading with config := some path, awaiting := false }

def plainArgument (reading : Reading) (argument : String) : Step :=
  match reading.level with
  | .top =>
    let below : Level → Step := fun level =>
      .ok { level, verboseAbove := .verbose ∈ reading.flags }
    if reading.plain then .error .misuse
    else if argument = "infer" then below .infer
    else if argument = "rules" then below .rules
    else .error .misuse
  | .infer =>
    if argument = "" || reading.file.isSome then .error .misuse
    else .ok { reading with file := some argument }
  | .rules => .error .misuse

def longOption (reading : Reading) (option : List Char) : Step :=
  let name := String.ofList (option.takeWhile (· ≠ '='))
  let value : Option String :=
    match option.dropWhile (· ≠ '=') with
    | [] => none
    | _ :: value => some (String.ofList value)
  if name = "config" && reading.level.takesConfig then
    match value with
    | some path => reading.setConfig path
    | none =>
      if reading.config.isSome then .error .misuse else .ok { reading with awaiting := true }
  else if value.isSome then .error .misuse
  else if name = "version" then .error (.version reading.level)
  else if name = "help" then .error (.help reading.level)
  else
    match reading.level.flags.lookup name with
    | some flag => reading.addFlag flag
    | none => .error .misuse

/-- Short options that share one hyphen. What follows the option for a configuration file in the
same argument is the path. -/
def shortOptions (reading : Reading) : List Char → Step
  | [] => .ok reading
  | 'v' :: rest => do shortOptions (← reading.addFlag .verbose) rest
  | 'V' :: _ => .error (.version reading.level)
  | 'h' :: _ => .error (.help reading.level)
  | 'c' :: rest =>
    if reading.level.takesConfig then
      match rest with
      | [] =>
        if reading.config.isSome then .error .misuse else .ok { reading with awaiting := true }
      | '=' :: path => reading.setConfig (String.ofList path)
      | path => reading.setConfig (String.ofList path)
    else .error .misuse
  | _ :: _ => .error .misuse

def next (reading : Reading) (argument : String) : Step :=
  if reading.plain then
    if reading.awaiting then .error .misuse else reading.plainArgument argument
  else
    match argument.toList with
    | '-' :: c :: rest =>
      if reading.awaiting then .error .misuse
      else if c ≠ '-' then reading.shortOptions (c :: rest)
      else if rest = [] then .ok { reading with plain := true }
      else reading.longOption rest
    | _ => if reading.awaiting then reading.setConfig argument else reading.plainArgument argument

/-- What is asked for, once all arguments are read. -/
def request (reading : Reading) : Request :=
  let verbose := reading.verboseAbove || .verbose ∈ reading.flags
  if reading.awaiting then .misuse
  else
    match reading.level, reading.file with
    | .infer, some file =>
      .infer
        { file, config := reading.config, json := .json ∈ reading.flags,
          parallel := .parallel ∈ reading.flags,
          unresolvedOnly := .unresolvedOnly ∈ reading.flags, verbose }
    | .rules, _ => .rules { config := reading.config, verbose }
    | _, _ => .misuse

end Reading

def helpRequest : List String → Request
  | [] | ["help"] => .help .top
  | ["infer"] => .help .infer
  | ["rules"] => .help .rules
  | _ => .misuse

def readFrom (reading : Reading) : List String → Request
  | [] => reading.request
  | argument :: rest =>
    if argument = "help" && reading.level = .top && !reading.plain then helpRequest rest
    else
      match reading.next argument with
      | .ok reading => readFrom reading rest
      | .error request => request

def Request.ofArguments (arguments : List String) : Request :=
  readFrom {} arguments

end ColumnRoles.CommandLine
