import Rulebook.CommandLine.Run
import Rulebook.Script.Run

open Rulebook CommandLine

-- The contents of a file, if it can be read as text.
def readText (path : String) : IO (Option String) := do
  try
    return some (← IO.FS.readFile path)
  catch _ =>
    return none

-- Solvers are looked up among the programs of the script language.
def main (args : List String) : IO UInt32 := do
  let request := Request.ofArguments args
  let files ← request.paths.mapM fun path => return (path, ← readText path)
  let world : World :=
    { files := fun path => (files.lookup path).join, installed := Script.program? }
  let start ← IO.monoMsNow
  let outcome := request.perform world
  let status := outcome.status
  let stop ← IO.monoMsNow
  IO.print (outcome.output (stop - start))
  for complaint in outcome.complaint? do
    IO.eprintln complaint
  return status.toUInt32
