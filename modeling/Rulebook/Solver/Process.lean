import Rulebook.KnowledgeBase
import Rulebook.Settings
import Rulebook.Solver.Error
import Rulebook.Solver.Started

namespace Rulebook

-- What is known of the programs that can be started, by name and arguments.
abbrev Installed := (binary : String) → (args : List String) → Option Program

-- A solver with its input and output, started or not.
structure SolverProcess where
  settings : SolverSettings
  started : Option Started := none

namespace SolverProcess

def isStarted (p : SolverProcess) : Bool :=
  p.started.isSome

-- End the program. Without a program this changes nothing.
def close (p : SolverProcess) : SolverProcess :=
  { p with started := none }

-- Start the program. One that is still there is ended first.
def exec (installed : Installed) (p : SolverProcess) :
    Except SolverError Unit × SolverProcess :=
  match installed p.settings.binary p.settings.args with
  | none => (.error (.spawn p.settings.commandLine), p.close)
  | some program =>
    let s : Started :=
      { program := program, diagnosticsByLine := p.settings.separateDiagnostics }
    (.ok (), { p with started := some s })

-- Do something with the program that has been started, if that is allowed.
def withStarted (allowed : Started → Bool) (act : Started → α × Started) (p : SolverProcess) :
    Except SolverError α × SolverProcess :=
  match p.started with
  | some s =>
    if allowed s then
      let (result, s) := act s
      (.ok result, { p with started := some s })
    else (.error .notStarted, p)
  | none => (.error .notStarted, p)

-- Write a text, and tell whether it could be written.
def write (text : String) : SolverProcess → Except SolverError Bool × SolverProcess :=
  withStarted (·.inputOpen) (·.write text)

def writeLast (text : String) : SolverProcess → Except SolverError Bool × SolverProcess :=
  withStarted (·.inputOpen) (·.writeLast text)

-- Read the output to its end.
def read : SolverProcess → Except SolverError String × SolverProcess :=
  withStarted (·.outputOpen) fun s => (s.rest, { s with outputRead := true })

-- Take the output away and read it to its end.
def readLast : SolverProcess → Except SolverError String × SolverProcess :=
  withStarted (·.outputOpen) fun s => (s.rest, { s with outputRead := true, outputOpen := false })

-- Close the input and wait for the end of the program, but not longer than the settings allow.
-- Waiting again tells the same when it has ended.
def solve (p : SolverProcess) : Except SolverError (Option Ending) × SolverProcess :=
  withStarted (fun _ => true) (·.wait p.settings.timeoutSeconds) p

end SolverProcess

-- The lines of an output up to the first one that is no text. A carriage return at the end of a
-- line does not belong to it, and the last line need not end.
def outputLines (output : List UInt8) : List String :=
  let parts := output.splitOn 10
  let complete := parts.dropLast.map fun line =>
    if line.getLast? = some 13 then line.dropLast else line
  let last := parts.getLast?.getD []
  let texts := (complete ++ if last.isEmpty then [] else [last]).map Bytes.text?
  (texts.takeWhile (·.isSome)).filterMap id

-- What a solver has written, line by line, and whether it was stopped when its time was over.
structure SolverRun where
  output : List String
  timedOut : Bool
  deriving DecidableEq

-- What a solver writes about a knowledge base.
def runSolver (installed : Installed) (solver : Solver) (settings : SolverSettings)
    (kb : KnowledgeBase) : Except SolverError SolverRun :=
  match installed settings.binary settings.args with
  | none => .error (.spawn settings.commandLine)
  | some program =>
    let run := program
      { input := Rendering.program solver kb.statements
        time := settings.timeoutSeconds.map (· * 1000)
        outputByLine := true
        diagnosticsByLine := settings.separateDiagnostics }
    .ok { output := outputLines run.output, timedOut := run.ending.isNone }

end Rulebook
