import Rulebook.CommandLine.Request

namespace Rulebook.CommandLine

-- The pages of help. A page at length has each option and what it means on lines of their own.

def programName : String := "chaseward"

def version : String := programName ++ " 0.3.1\n"

def lines (l : List String) : String :=
  String.join (l.map (· ++ "\n"))

def overview : String :=
  lines
    ["Knowledge-base compiler for existential rules",
     "",
     "Usage: " ++ programName ++ " [OPTIONS] <COMMAND>",
     "",
     "Commands:",
     "  render    Print the program a solver would receive",
     "  solve     Run an answer-set solver on a knowledge base",
     "  classify  Show how the knowledge base is split into EDB and IDB predicates",
     "  help      Print this message or the help of the given subcommand(s)",
     "",
     "Options:",
     "      --config <CONFIG>  TOML configuration file",
     "  -h, --help             Print help",
     "  -V, --version          Print version"]

def helpOfHelp : String :=
  lines
    ["Print this message or the help of the given subcommand(s)",
     "",
     "Usage: " ++ programName ++ " help [COMMAND]...",
     "",
     "Arguments:",
     "  [COMMAND]...  Print help for the subcommand(s)"]

def Subcommand.text : Subcommand → String
  | render => "render"
  | solve => "solve"
  | classify => "classify"

def Subcommand.summary : Subcommand → String
  | render => "Print the program a solver would receive"
  | solve => "Run an answer-set solver on a knowledge base"
  | classify => "Show how the knowledge base is split into EDB and IDB predicates"

-- An option on a page: how it is given and what it means, in short and at length.
structure Entry where
  usage : String
  short : String
  atLength : List String

def configEntry : Entry :=
  ⟨"      --config <CONFIG>", "TOML configuration file", ["TOML configuration file"]⟩

def kbEntry : Entry :=
  ⟨"      --kb <KB>", "Knowledge base as a JSON statement list",
    ["Knowledge base as a JSON statement list"]⟩

def solverEntry : Entry :=
  ⟨"      --solver <SOLVER>", "[default: clingo] [possible values: clingo, dlv]",
    ["Possible values:",
     "- clingo",
     "- dlv:    Disjunctive solver; conjunctive heads are split into one rule per atom",
     "",
     "[default: clingo]"]⟩

def timeoutEntry : Entry :=
  ⟨"      --timeout <TIMEOUT>", "Stop the solver after this many seconds",
    ["Stop the solver after this many seconds"]⟩

-- A page tells of the other page only if there is one.
def helpEntry (hasLength : Bool) : Entry :=
  ⟨"  -h, --help", if hasLength then "Print help (see more with '--help')" else "Print help",
    ["Print help (see a summary with '-h')"]⟩

def Subcommand.entries : Subcommand → List Entry
  | render => [configEntry, kbEntry, solverEntry, helpEntry true]
  | solve => [configEntry, kbEntry, solverEntry, timeoutEntry, helpEntry true]
  | classify => [configEntry, kbEntry, helpEntry false]

-- Only the solver option has more to say than fits on a line.
def Subcommand.hasLength (s : Subcommand) : Bool :=
  s ≠ .classify

def padded (width : Nat) (s : String) : String :=
  s ++ String.ofList (List.replicate (width - s.length) ' ')

def shortEntries (entries : List Entry) : List String :=
  let width := (entries.map (·.usage.length)).foldl max 0
  entries.map fun e => padded width e.usage ++ "  " ++ e.short

def longEntry (e : Entry) : List String :=
  e.usage :: e.atLength.map ("          " ++ ·)

def longEntries (entries : List Entry) : List String :=
  [""].intercalate (entries.map longEntry)

def subcommandPage (s : Subcommand) (atLength : Bool) : String :=
  lines <|
    [s.summary, "", "Usage: " ++ programName ++ " " ++ s.text ++ " [OPTIONS] --kb <KB>", "",
      "Options:"] ++
      if atLength && s.hasLength then longEntries s.entries else shortEntries s.entries

def Page.text (atLength : Bool) : Page → String
  | overview => CommandLine.overview
  | subcommand s => subcommandPage s atLength
  | help => helpOfHelp

end Rulebook.CommandLine
