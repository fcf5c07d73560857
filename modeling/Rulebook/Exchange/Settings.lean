import Rulebook.Json.Record
import Rulebook.Settings
import Rulebook.Toml.Printer

-- How settings are written as records and read from them. Formats differ in how they write a
-- value without content, so reading takes a dialect.

namespace Rulebook

open Json

-- A timeout is written only if there is one.
def timeoutItems (seconds : Option Nat) : List (String × Toml.Item) :=
  (seconds.map fun n => ("timeout_seconds", Toml.Item.count n)).toList

namespace ReasonerSettings

def toSection (s : ReasonerSettings) : Toml.Section where
  name := "reasoner"
  items :=
    [("algorithm", .text s.algorithm.text), ("rule_rewrite_strategy", .text s.headStrategy.text)] ++
      timeoutItems s.timeoutSeconds ++ [("log_level", .text s.logLevel.text)]

def toJson (s : ReasonerSettings) : Json :=
  s.toSection.toJson

structure Slots where
  algorithm : Option Algorithm := none
  headStrategy : Option HeadStrategy := none
  timeoutSeconds : Option (Option Nat) := none
  logLevel : Option LogLevel := none

def fields (dialect : Dialect) : List (RecordField Slots) :=
  [.slot "algorithm" (asName dialect Algorithm.names) (·.algorithm)
     fun a s => { s with algorithm := some a },
   .slot "rule_rewrite_strategy" (asName dialect HeadStrategy.names) (·.headStrategy)
     fun a s => { s with headStrategy := some a },
   .slot "timeout_seconds" (asOption asNat) (·.timeoutSeconds)
     fun a s => { s with timeoutSeconds := some a },
   .slot "log_level" (asName dialect LogLevel.names) (·.logLevel)
     fun a s => { s with logLevel := some a }]

-- A missing field keeps its default.
def ofSlots (s : Slots) : ReasonerSettings :=
  let start : ReasonerSettings := {}
  { algorithm := s.algorithm.getD start.algorithm
    headStrategy := s.headStrategy.getD start.headStrategy
    timeoutSeconds := s.timeoutSeconds.getD start.timeoutSeconds
    logLevel := s.logLevel.getD start.logLevel }

def ofJson (dialect : Dialect) (j : Json) : Decoded ReasonerSettings :=
  (asRecord dialect (fields dialect) {} j).map ofSlots

end ReasonerSettings

namespace SolverSettings

def toSection (solver : Solver) (s : SolverSettings) : Toml.Section where
  name := solver.text
  items :=
    [("binary", .text s.binary), ("args", .texts s.args)] ++ timeoutItems s.timeoutSeconds ++
      [("separate_diagnostics", .flag s.separateDiagnostics)]

structure Slots where
  binary : Option String := none
  args : Option (List String) := none
  timeoutSeconds : Option (Option Nat) := none
  separateDiagnostics : Option Bool := none

def fields : List (RecordField Slots) :=
  [.slot "binary" asString (·.binary) fun a s => { s with binary := some a },
   .slot "args" (asList asString) (·.args) fun a s => { s with args := some a },
   .slot "timeout_seconds" (asOption asNat) (·.timeoutSeconds)
     fun a s => { s with timeoutSeconds := some a },
   .slot "separate_diagnostics" asBool (·.separateDiagnostics)
     fun a s => { s with separateDiagnostics := some a }]

-- Only the binary has no default.
def ofJson (dialect : Dialect) (j : Json) : Decoded SolverSettings := do
  let s ← asRecord dialect fields {} j
  let start : SolverSettings := ⟨← required s.binary, [], none, false⟩
  return { start with
    args := s.args.getD start.args
    timeoutSeconds := s.timeoutSeconds.getD start.timeoutSeconds
    separateDiagnostics := s.separateDiagnostics.getD start.separateDiagnostics }

end SolverSettings

namespace Settings

def toSections (s : Settings) : List Toml.Section :=
  [s.reasoner.toSection, s.clingo.toSection .clingo, s.dlv.toSection .dlv]

def toJson (s : Settings) : Json :=
  .object (s.toSections.map fun part => (part.name, part.toJson))

structure Slots where
  reasoner : Option ReasonerSettings := none
  clingo : Option SolverSettings := none
  dlv : Option SolverSettings := none

def fields (dialect : Dialect) : List (RecordField Slots) :=
  [.slot "reasoner" (ReasonerSettings.ofJson dialect) (·.reasoner)
     fun a s => { s with reasoner := some a },
   .slot "clingo" (SolverSettings.ofJson dialect) (·.clingo)
     fun a s => { s with clingo := some a },
   .slot "dlv" (SolverSettings.ofJson dialect) (·.dlv)
     fun a s => { s with dlv := some a }]

-- A missing section is the default of that section.
def ofSlots (s : Slots) : Settings :=
  let start : Settings := {}
  { reasoner := s.reasoner.getD start.reasoner
    clingo := s.clingo.getD start.clingo
    dlv := s.dlv.getD start.dlv }

def ofJson (dialect : Dialect) (j : Json) : Decoded Settings :=
  (asRecord dialect (fields dialect) {} j).map ofSlots

end Settings

end Rulebook
