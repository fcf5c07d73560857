import Rulebook.Bytes
import Rulebook.Solver.Program

namespace Rulebook

-- A program that has been started. What is written to it gathers before it is delivered, and the
-- program gets all of its input when that is closed.
structure Started where
  program : Program
  -- whether what it complains about is read apart from what it answers
  diagnosticsByLine : Bool := false
  delivered : String := ""
  gathered : String := ""
  -- whether something could not be delivered, and nothing can from then on
  broken : Bool := false
  inputOpen : Bool := true
  outputOpen : Bool := true
  outputRead : Bool := false
  -- how long its end has been waited for, in thousandths of a second
  waited : Nat := 0

namespace Started

-- How many bytes gather at most.
def gatheringSize : Nat := 8192

-- How many bytes can be on their way to a program.
def pipeSize : Nat := 65536

-- What the program does with an input.
def runWith (input : String) (time : Option Nat) (s : Started) : ProgramRun :=
  s.program { input := input, time := time, diagnosticsByLine := s.diagnosticsByLine }

-- What the program does if it has all the time.
def result (s : Started) : ProgramRun :=
  s.runWith s.delivered none

-- Whether the program is known to have ended: its output is only over before that when the program
-- has closed it.
def isOver (s : Started) : Bool :=
  s.outputRead && !s.result.outlivesOutput

-- Whether a text can be delivered. A program that has ended reads no more, and one that leaves more
-- than what can be on its way ends before it is delivered.
def takes (text : String) (s : Started) : Bool :=
  let input := s.delivered ++ text
  !s.broken && !s.isOver &&
    (input.utf8ByteSize ≤ pipeSize || (s.runWith input none).unread ≤ pipeSize)

def deliver (text : String) (s : Started) : Bool × Started :=
  if s.takes text then (true, { s with delivered := s.delivered ++ text })
  else (false, { s with broken := true })

-- Deliver what has gathered. It stays when it cannot be delivered.
def flush (s : Started) : Bool × Started :=
  if s.gathered.isEmpty then (true, s)
  else
    match s.deliver s.gathered with
    | (true, s) => (true, { s with gathered := "" })
    | (false, s) => (false, s)

-- Write a text, and tell whether it has been taken. A long one does not gather.
def write (text : String) (s : Started) : Bool × Started :=
  let size := text.utf8ByteSize
  let (done, s) :=
    if s.gathered.utf8ByteSize + size > gatheringSize then s.flush else (true, s)
  if !done then (false, s)
  else if size ≥ gatheringSize then s.deliver text
  else (true, { s with gathered := s.gathered ++ text })

-- Write a last text and close the input.
def writeLast (text : String) (s : Started) : Bool × Started :=
  let (written, s) := s.write text
  let (flushed, s) := s.flush
  (written && flushed, { s with inputOpen := false })

-- The rest of the output, which is empty if it is no text.
def rest (s : Started) : String :=
  if s.outputRead then "" else (Bytes.text? s.result.output).getD ""

-- Whether the program waits for somebody to read its output.
def isStuck (s : Started) : Bool :=
  s.outputOpen && !s.outputRead && s.result.output.length > pipeSize

-- Close the input and wait for the end of the program, so many seconds at most.
def wait (seconds : Option Nat) (s : Started) : Option Ending × Started :=
  let s := { s.flush.2 with inputOpen := false }
  if s.isOver then (s.result.ending, s)
  else
    let time := seconds.map fun n => s.waited + n * 1000
    match if s.isStuck then none else (s.runWith s.delivered time).ending with
    | some ending => (some ending, s)
    | none => (none, { s with waited := time.getD s.waited })

end Started

end Rulebook
