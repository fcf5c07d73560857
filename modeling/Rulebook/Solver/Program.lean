namespace Rulebook

-- How a program ends.
inductive Ending
  | exited (code : Nat)
  | killed
  deriving DecidableEq

def Ending.code? : Ending → Option Nat
  | exited code => some code
  | killed => none

-- What a program has done when it ends or when its time is over.
structure ProgramRun where
  -- the bytes that it has written
  output : List UInt8
  -- missing while it goes on
  ending : Option Ending
  -- how many bytes of its input it has not read
  unread : Nat := 0
  -- whether it goes on reading after it has closed its output
  outlivesOutput : Bool := false
  deriving DecidableEq

-- What there is around a program. Who reads what it writes line by line gives up at the first line
-- that is no text, and then nobody reads it.
structure Surroundings where
  input : String
  -- in thousandths of a second
  time : Option Nat := none
  outputByLine : Bool := false
  diagnosticsByLine : Bool := false

-- What a program does with all of its input, in its time if that is limited.
abbrev Program := Surroundings → ProgramRun

end Rulebook
