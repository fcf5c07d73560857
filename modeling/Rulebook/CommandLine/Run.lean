import Rulebook.CommandLine.Help
import Rulebook.Exchange.KnowledgeBase
import Rulebook.Exchange.SettingsFile
import Rulebook.Failure
import Rulebook.Reasoner.Configuration
import Rulebook.Reasoner.Recorder
import Rulebook.Solver.Process

namespace Rulebook.CommandLine

-- Why a task cannot be done.
inductive Fault
  | failure (cause : Failure)
  | timeoutOption
  -- a solver would have to be stopped at a time that cannot be told
  | timeBeyondClocks
  deriving DecidableEq

def Fault.message : Fault → String
  | failure cause => cause.diagnostic.message
  | timeoutOption => "--timeout must be strictly positive"
  | timeBeyondClocks => "overflow when adding duration to instant"

def Fault.status : Fault → Nat
  | timeBeyondClocks => 101
  | _ => 1

-- What a command line leads to. It may be told at the end how long it took.
inductive Outcome
  | refused
  | failed (fault : Fault)
  | done (output : String) (timed : Bool)
  deriving DecidableEq

-- What is outside: the contents of files and the programs that can be started.
structure World where
  files : String → Option String
  installed : Installed

namespace World

def settings (w : World) : Option String → Except Fault Settings
  | none => .ok {}
  | some path =>
    (Settings.loadFile (.ofText path) (w.files path)).mapError fun e => .failure (.settings e)

def knowledgeBase (w : World) (path : String) : Except Fault KnowledgeBase :=
  (KnowledgeBase.loadFile (.ofText path) (w.files path)).mapError fun e =>
    .failure (.knowledgeBase e)

end World

-- A heading with indented lines below it.
def listing (heading : String) (l : List String) : String :=
  lines (heading :: l.map ("  " ++ ·))

def classificationText (c : Classification) (sources : String) : String :=
  listing "EDB predicates:" (c.edb.map (·.1.text)) ++
    listing "IDB predicates:" (c.idb.map Predicate.text) ++
    listing "Aliased EDB predicates:" (c.aliased.map Predicate.text) ++
    listing "Aliases:" (c.aliases.map fun a => a.2.text ++ " <- " ++ a.1.text) ++
    listing "Rules:" (c.rules.map Rule.text) ++
    if sources.isEmpty then "" else lines ["Data source configuration:"] ++ sources

-- How a knowledge base is split when it is loaded with some settings.
def classificationOutput (settings : ReasonerSettings) (kb : KnowledgeBase) :
    Except ReasonerError String := do
  let reasoner ← Reasoner.configured ({} : Recorder) settings
  let (result, reasoner) := reasoner.load kb
  result
  let sources ← reasoner.index.sourceConfiguration.mapError fun e => .configuration e.message
  return classificationText reasoner.index sources

-- A timeout on the command line replaces that of the settings.
def solverSettings (settings : Settings) (solver : Solver) (timeout : Option Nat) :
    Except Fault SolverSettings :=
  match timeout with
  | none => .ok (settings.solver solver)
  | some seconds =>
    if seconds = 0 then .error .timeoutOption
    else .ok { settings.solver solver with timeoutSeconds := some seconds }

-- Clocks count seconds up to this.
def lastSecond : Nat := 9223372036854775807

-- Run a solver. It has been started when the end of its time is looked for.
def solverRun (w : World) (solver : Solver) (settings : SolverSettings) (kb : KnowledgeBase) :
    Except Fault SolverRun :=
  match runSolver w.installed solver settings kb with
  | .error e => .error (.failure (.solver e))
  | .ok run =>
    if settings.timeoutSeconds.any (lastSecond ≤ ·) then .error .timeBeyondClocks else .ok run

-- What is told of a solver that took too long.
def stoppedText (solver : Solver) : String :=
  solver.text ++ " was stopped after its timeout."

-- The knowledge base is read before anything else of a task is looked at.
def Task.perform (w : World) (settings : Settings) : Task → Except Fault String
  | .render kb solver => do
    return Rendering.program solver (← w.knowledgeBase kb).statements
  | .solve kb solver timeout => do
    let kb ← w.knowledgeBase kb
    let started ← solverSettings settings solver timeout
    let run ← solverRun w solver started kb
    return lines (run.output ++ if run.timedOut then [stoppedText solver] else [])
  | .classify kb => do
    let kb ← w.knowledgeBase kb
    (classificationOutput settings.reasoner kb).mapError fun e => .failure (.reasoner e)

def Task.isTimed : Task → Bool
  | .solve _ _ _ => true
  | _ => false

-- Settings are read before the knowledge base.
def Request.perform (w : World) : Request → Outcome
  | .refused => .refused
  | .version => .done CommandLine.version false
  | .help page atLength => .done (page.text atLength) false
  | .run config task =>
    match w.settings config with
    | .error fault => .failed fault
    | .ok settings =>
      match task.perform w settings with
      | .error fault => .failed fault
      | .ok output => .done output task.isTimed

-- What a command line is answered with on the output, and its status.
def Outcome.output (milliseconds : Nat) : Outcome → String
  | done output false => output
  | done output true => output ++ "... finished in " ++ toString milliseconds ++ "ms.\n"
  | _ => ""

def Outcome.status : Outcome → Nat
  | done _ _ => 0
  | failed fault => fault.status
  | refused => 2

def Outcome.complaint? : Outcome → Option String
  | done _ _ => none
  | failed fault => some ("Error: " ++ fault.message)
  | refused => some ("Usage: " ++ programName ++ " [OPTIONS] <COMMAND>")

-- The files whose contents a request needs.
def Request.paths : Request → List String
  | .run config (.render kb _) => config.toList ++ [kb]
  | .run config (.solve kb _ _) => config.toList ++ [kb]
  | .run config (.classify kb) => config.toList ++ [kb]
  | _ => []

end Rulebook.CommandLine
