import Rulebook.Diagnostic
import Rulebook.Solver.Rendering

namespace Rulebook

inductive Algorithm
  | restrictedChase
  | skolemChase
  deriving DecidableEq

-- What an engine may do with conjunctions in rule heads before it runs the rules.
inductive HeadStrategy
  | none
  | splitHeadPieces
  deriving DecidableEq

inductive LogLevel
  | error
  | warning
  | info
  | debug
  deriving DecidableEq

-- The names of settings, as files and answers write them.

def Algorithm.names : List (String × Algorithm) :=
  [("restricted_chase", .restrictedChase), ("skolem_chase", .skolemChase)]

def Algorithm.text : Algorithm → String
  | restrictedChase => "restricted_chase"
  | skolemChase => "skolem_chase"

def HeadStrategy.names : List (String × HeadStrategy) :=
  [("none", .none), ("split_head_pieces", .splitHeadPieces)]

def HeadStrategy.text : HeadStrategy → String
  | none => "none"
  | splitHeadPieces => "split_head_pieces"

def LogLevel.names : List (String × LogLevel) :=
  [("error", .error), ("warning", .warning), ("info", .info), ("debug", .debug)]

def LogLevel.text : LogLevel → String
  | error => "error"
  | warning => "warning"
  | info => "info"
  | debug => "debug"

-- The settings of a reasoner. Without a timeout a run goes on until nothing new is derived.
structure ReasonerSettings where
  algorithm : Algorithm := .restrictedChase
  headStrategy : HeadStrategy := .none
  timeoutSeconds : Option Nat := none
  logLevel : LogLevel := .warning
  deriving DecidableEq

-- How a solver is started.
structure SolverSettings where
  binary : String
  args : List String := []
  timeoutSeconds : Option Nat := none
  separateDiagnostics : Bool := false
  deriving DecidableEq

namespace SolverSettings

def clingo : SolverSettings where
  binary := "clingo"
  args := ["--configuration=tweety", "--time-limit=30", "--quiet=2,2,2"]

def dlv : SolverSettings where
  binary := "dlv"
  args := ["--stdin"]
  separateDiagnostics := true

def commandLine (s : SolverSettings) : String :=
  " ".intercalate (s.binary :: s.args)

end SolverSettings

-- All settings that a file can hold.
structure Settings where
  reasoner : ReasonerSettings := {}
  clingo : SolverSettings := .clingo
  dlv : SolverSettings := .dlv
  deriving DecidableEq

-- Why settings cannot be read, written or used.
inductive SettingsError
  | read (path : String)
  | parse (path message : String)
  | write (path : String)
  | nonPositiveTimeout (field : String)
  deriving DecidableEq

def SettingsError.diagnostic : SettingsError → Diagnostic
  | read path =>
    ⟨"chaseward::config::read", "failed to read config: " ++ path,
      some "Ensure the config file exists and is readable."⟩
  | parse path message =>
    ⟨"chaseward::config::parse", "failed to parse config " ++ path ++ ": " ++ message,
      some "Check the TOML syntax and the section names ([reasoner], [clingo], [dlv])."⟩
  | write path =>
    ⟨"chaseward::config::write", "failed to write config: " ++ path,
      some "Ensure you have write permissions to the target directory."⟩
  | nonPositiveTimeout field =>
    ⟨"chaseward::config::non_positive_timeout", field ++ " must be strictly positive",
      some "Remove the field for no timeout, or give a positive number of seconds."⟩

namespace Settings

def solver (s : Settings) : Solver → SolverSettings
  | .clingo => s.clingo
  | .dlv => s.dlv

-- Timeouts of zero are not allowed; the first one is reported.
def validate (s : Settings) : Except SettingsError Unit :=
  if s.reasoner.timeoutSeconds = some 0 then
    .error (.nonPositiveTimeout "reasoner.timeout_seconds")
  else if s.clingo.timeoutSeconds = some 0 then
    .error (.nonPositiveTimeout "clingo.timeout_seconds")
  else if s.dlv.timeoutSeconds = some 0 then
    .error (.nonPositiveTimeout "dlv.timeout_seconds")
  else .ok ()

end Settings

end Rulebook
