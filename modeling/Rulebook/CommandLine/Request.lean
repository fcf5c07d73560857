import Rulebook.Json.Record
import Rulebook.Solver.Rendering

namespace Rulebook.CommandLine

inductive Subcommand
  | render
  | solve
  | classify
  deriving DecidableEq

def Subcommand.names : List (String × Subcommand) :=
  [("render", .render), ("solve", .solve), ("classify", .classify)]

-- The pages of help: an overview, and one for each subcommand and for help itself.
inductive Page
  | overview
  | subcommand (name : Subcommand)
  | help
  deriving DecidableEq

-- What is to be done with a knowledge base in a file.
inductive Task
  | render (kb : String) (solver : Solver)
  | solve (kb : String) (solver : Solver) (timeout : Option Nat)
  | classify (kb : String)
  deriving DecidableEq

-- What a command line asks for.
inductive Request
  | refused
  | version
  -- a page of help, in short or at length
  | help (page : Page) (atLength : Bool)
  | run (config : Option String) (task : Task)
  deriving DecidableEq

-- The options that take a value.
inductive Flag
  | config
  | kb
  | solver
  | timeout
  deriving DecidableEq

def Flag.names : List (String × Flag) :=
  [("config", .config), ("kb", .kb), ("solver", .solver), ("timeout", .timeout)]

-- Only the configuration is for all subcommands, and can be given before them.
def Flag.belongsTo : Option Subcommand → Flag → Bool
  | _, .config => true
  | none, _ => false
  | some _, .kb => true
  | some s, .solver => s ≠ .classify
  | some s, .timeout => s = .solve

-- The values of options met so far.
structure Given where
  config : Option String := none
  kb : Option String := none
  solver : Option Solver := none
  timeout : Option Nat := none

-- A path is not empty.
def path? (value : String) : Option String :=
  if value.isEmpty then none else some value

-- A number of seconds, perhaps with a plus sign.
def seconds? (value : String) : Option Nat :=
  let digits :=
    match value.toList with
    | '+' :: cs => cs
    | cs => cs
  (Json.naturalOf? digits).bind fun n => if n < 0x10000000000000000 then some n else none

-- Give an option its value. Every option is given once.
def Given.set? (flag : Flag) (value : String) (g : Given) : Option Given :=
  match flag with
  | .config =>
    if g.config.isSome then none else (path? value).map fun v => { g with config := some v }
  | .kb => if g.kb.isSome then none else (path? value).map fun v => { g with kb := some v }
  | .solver =>
    if g.solver.isSome then none
    else (Solver.names.lookup value).map fun v => { g with solver := some v }
  | .timeout =>
    if g.timeout.isSome then none
    else (seconds? value).map fun v => { g with timeout := some v }

-- What kind of argument a text is.
inductive Argument
  -- two dashes, after which options end
  | stop
  | long (name : String) (value : Option String)
  | short (letter : Char)
  | plain (text : String)
  deriving DecidableEq

def Argument.ofText (text : String) : Argument :=
  match text.toList with
  | ['-', '-'] => .stop
  | '-' :: '-' :: cs =>
    match cs.span (· ≠ '=') with
    | (name, _ :: value) => .long (String.ofList name) (some (String.ofList value))
    | (name, []) => .long (String.ofList name) none
  | '-' :: c :: _ => .short c
  | _ => .plain text

def Task.ofGiven? (subcommand : Subcommand) (g : Given) : Option Task :=
  let solver := g.solver.getD .clingo
  g.kb.map fun kb =>
    match subcommand with
    | .render => .render kb solver
    | .solve => .solve kb solver g.timeout
    | .classify => .classify kb

-- When all arguments have been read. A configuration that is given to the subcommand counts
-- before one given in front of it.
def finish (subcommand : Option Subcommand) (outer : Option String) (g : Given) : Request :=
  match subcommand.bind fun s => Task.ofGiven? s g with
  | some task => .run (g.config <|> outer) task
  | none => .refused

def helpPage (subcommand : Option Subcommand) : Page :=
  subcommand.elim .overview .subcommand

-- What is asked for after the word `help`.
def helpOn : List String → Request
  | [] => .help .overview true
  | ["help"] => .help .help true
  | [name] =>
    match Subcommand.names.lookup name with
    | some s => .help (.subcommand s) true
    | none => .refused
  | _ => .refused

-- Arguments are read from left to right, and the first thing that settles the request does so.
-- An option may wait for its value.
def readFrom (subcommand : Option Subcommand) (outer : Option String) (g : Given) :
    (waiting : Option Flag) → List String → Request
  | some _, [] => .refused
  | some flag, arg :: args =>
    match Argument.ofText arg with
    | .plain value =>
      match g.set? flag value with
      | some g => readFrom subcommand outer g none args
      | none => .refused
    | _ => .refused
  | none, [] => finish subcommand outer g
  | none, arg :: args =>
    match Argument.ofText arg with
    | .stop => if args.isEmpty then finish subcommand outer g else .refused
    | .short letter =>
      if letter = 'h' then .help (helpPage subcommand) false
      else if letter = 'V' && subcommand.isNone then .version
      else .refused
    | .long name value =>
      if name = "help" && value.isNone then .help (helpPage subcommand) true
      else if name = "version" && value.isNone && subcommand.isNone then .version
      else
        match (Flag.names.lookup name).filter (·.belongsTo subcommand), value with
        | none, _ => .refused
        | some flag, none => readFrom subcommand outer g (some flag) args
        | some flag, some value =>
          match g.set? flag value with
          | some g => readFrom subcommand outer g none args
          | none => .refused
    | .plain text =>
      if subcommand.isSome then .refused
      else if text = "help" then helpOn args
      else
        match Subcommand.names.lookup text with
        | some s => readFrom (some s) g.config {} none args
        | none => .refused

def Request.ofArguments (args : List String) : Request :=
  readFrom none none {} none args

end Rulebook.CommandLine
