import Rulebook.Script.Command
import Rulebook.Script.Integer
import Rulebook.Script.Machine

namespace Rulebook.Script

-- What a shell does next.
inductive Flow
  | on
  -- so many loops are left, or the last of them goes on
  | breaking (loops : Nat)
  | continuing (loops : Nat)
  | returning
  -- a failure that ends the script unless an ordinary command contains it
  | failed
  | ended
  | killed (signal : Nat)
  -- no end is known
  | endless
  deriving DecidableEq

-- How a process has ended: by itself with a status, or by a signal.
inductive End
  | exited (status : Nat)
  | killed (signal : Nat)
  deriving DecidableEq

-- What the one who has started the process learns.
def End.status : End → Nat
  | exited n => n
  | killed n => 128 + n

structure Variable where
  value : Option String := none
  exported : Bool := false
  fixed : Bool := false
  deriving DecidableEq

-- A process in the background. It runs when it is waited for, and then has an end.
structure Job where
  pid : Nat
  start : Nat
  -- the shell that has started it has ended
  orphaned : Bool := false
  -- how it ends and what is left then, if it ends in time
  run : (limit : Option Nat) → Machine → Option (End × Machine)
  ending : Option End := none

-- Where programs are looked for if nothing else is said.
def usualPath : String :=
  "/usr/local/sbin:/usr/local/bin:/usr/sbin:/usr/bin:/sbin:/bin"

-- A shell, and what goes for any process that it starts: streams, folder and variables.
structure Shell where
  machine : Machine := {}
  pid : Nat := 1
  -- the process of the script that this process is part of
  scriptPid : Nat := 1
  streams : List (Nat × Opened) := []
  folder : String := "/work"
  bindings : List (String × Variable) := []
  functions : List (String × Command) := []
  -- programs that have been found
  found : List String := []
  aliases : List (String × String) := []
  name : String := "sh"
  arguments : List String := []
  options : List Char := []
  status : Nat := 0
  -- the status of the last script whose output became a part of a word
  outputStatus : Nat := 0
  line : Nat := 1
  -- the ordinary command that is running, as complaints tell it
  running : Option String := none
  flow : Flow := .on
  -- an empty text ignores a signal
  traps : List (String × String) := []
  caught : List String := []
  -- the status before a trap, which is the one to end with
  trapStatus : Option Nat := none
  loops : Nat := 0
  inFunction : Bool := false
  -- the variables that functions have made their own, with what they were before
  scopes : List (List (String × Option Variable)) := []
  jobs : List Job := []
  lastJob : Option Nat := none
  texts : List HereText := []
  textNumber : Nat := 0
  -- how many functions are inside one another, and how many processes
  depth : Nat := 0
  nesting : Nat := 0
  -- when the process and those that it starts are stopped
  deadline : Option Nat := none
  -- when the process alone is killed
  lifetime : Option Nat := none
  -- the first refusal to take what was written
  refusal : Option Refusal := none
  -- which argument is next where options are taken, and how much of the one before has been taken
  optionIndex : Nat := 1
  optionOffset : Nat := 0
  mask : Nat := 18

abbrev Work := StateM Shell

namespace Shell

def isOn (s : Shell) : Bool :=
  s.flow = .on

def option (letter : Char) (s : Shell) : Bool :=
  letter ∈ s.options

-- Variables

def known? (s : Shell) (name : String) : Option Variable :=
  s.bindings.lookup name

def value? (s : Shell) (name : String) : Option String :=
  (s.known? name).bind (·.value)

def value (s : Shell) (name : String) : String :=
  (s.value? name).getD ""

def setVariable (name : String) (v : Variable) (s : Shell) : Shell :=
  { s with bindings := Machine.put name v s.bindings }

def assign (name value : String) (s : Shell) : Shell :=
  let v := (s.known? name).getD {}
  let v := { v with value := some value, exported := v.exported || s.option 'a' }
  let s := s.setVariable name v
  if name = "OPTIND" then
    { s with optionIndex := (natural? value).getD 1, optionOffset := 0 }
  else if name = "PATH" then { s with found := [] }
  else s

-- Keep in mind that a program has been found by its name alone.
def find (name : String) (s : Shell) : Shell :=
  if name.contains '/' || name ∈ s.found then s else { s with found := s.found ++ [name] }

-- Put a variable back to what it was.
def restore (name : String) (before : Option Variable) (s : Shell) : Shell :=
  match before with
  | some v => s.setVariable name v
  | none => { s with bindings := Machine.drop name s.bindings }

-- The characters that separate fields.
def separators (s : Shell) : List Char :=
  match s.value? "IFS" with
  | some t => t.toList
  | none => [' ', '\t', '\n']

def environment (s : Shell) : List (String × String) :=
  s.bindings.filterMap fun (name, v) =>
    if v.exported then v.value.map ((name, ·)) else none

-- Streams

def setStream (stream : Nat) (o : Opened) (s : Shell) : Shell :=
  { s with streams := Machine.put stream o s.streams }

def closeStream (stream : Nat) (s : Shell) : Shell :=
  { s with streams := Machine.drop stream s.streams }

-- The first stream from a number on that is closed.
def freeStream (s : Shell) (first : Nat) : Nat :=
  (((List.range (s.streams.length + 1)).map (first + ·)).find? fun n =>
    (s.streams.lookup n).isNone).getD first

def opened (s : Shell) (stream : Nat) : Except Refusal Opened :=
  match s.streams.lookup stream with
  | some o => .ok o
  | none => .error .badStream

-- Processes

def ignores (name : String) (s : Shell) : Bool :=
  s.traps.lookup name = some ""

end Shell

def setStatus (n : Nat) : Work Unit :=
  modify fun s => { s with status := n }

def setFlow (f : Flow) : Work Unit :=
  modify fun s => { s with flow := f }

def setMachine (m : Machine) : Work Unit :=
  modify fun s => { s with machine := m }

def isOn : Work Bool :=
  return (← get).isOn

-- Signals by name.
def signals : List (String × Nat) :=
  [("HUP", 1), ("INT", 2), ("QUIT", 3), ("ILL", 4), ("TRAP", 5), ("ABRT", 6), ("BUS", 7),
   ("FPE", 8), ("KILL", 9), ("USR1", 10), ("SEGV", 11), ("USR2", 12), ("PIPE", 13), ("ALRM", 14),
   ("TERM", 15), ("STKFLT", 16), ("CHLD", 17), ("CONT", 18), ("STOP", 19), ("TSTP", 20),
   ("TTIN", 21), ("TTOU", 22), ("URG", 23), ("XCPU", 24), ("XFSZ", 25), ("VTALRM", 26),
   ("PROF", 27), ("WINCH", 28), ("POLL", 29), ("PWR", 30), ("SYS", 31)]

def signalName (n : Nat) : String :=
  if n = 0 then "EXIT" else ((signals.find? (·.2 = n)).map (·.1)).getD (toString n)

def signalNumber? (s : String) : Option Nat :=
  match natural? s with
  | some n => if n < 65 then some n else none
  | none =>
    let s := upper s
    if s = "EXIT" then some 0 else signals.lookup s

-- The signal that tells the end of another process.
def childSignal : Nat := 17

-- What is said of a process that a signal has ended, if anything.
def signalText? (n : Nat) : Option String :=
  [(1, "Hangup"), (3, "Quit"), (4, "Illegal instruction"), (5, "Trace/breakpoint trap"),
   (6, "Aborted"), (7, "Bus error"), (8, "Floating point exception"), (9, "Killed"),
   (10, "User defined signal 1"), (11, "Segmentation fault"), (12, "User defined signal 2"),
   (14, "Alarm clock"), (15, "Terminated")].lookup n

-- A signal reaches this process.
def catchSignal (n : Nat) : Work Unit := do
  let s ← get
  let name := signalName n
  match if n = 9 || n = 19 then none else s.traps.lookup name with
  | some "" => return
  | some _ => set { s with caught := s.caught.filter (· ≠ name) ++ [name] }
  | none =>
    if n ∈ [0, 17, 18, 23, 28] then return
    else if n ∈ [19, 20, 21, 22] then setFlow .endless
    else setFlow (.killed n)

-- Write to what was opened. A pipe that nobody reads from sends a signal.
def writeTo (o : Opened) (text : String) : Work (Option Refusal) := do
  match (← get).machine.write o text with
  | .ok m =>
    setMachine m
    return none
  | .error e =>
    if e = .brokenPipe then
      setMachine ((← get).machine.cutPipe o)
      catchSignal 13
    return some e

-- Write to a stream, unless a signal has ended the process.
def emit (stream : Nat) (text : String) : Work (Option Refusal) := do
  let s ← get
  if s.flow matches .killed _ then return none
  match s.opened stream with
  | .error e => return some e
  | .ok o => writeTo o text

-- Write to the output, and keep in mind whether that was refused.
def print (text : String) : Work Unit := do
  if !text.isEmpty then
    match ← emit 1 text with
    | some e =>
      modify fun s => { s with refusal := if s.refusal.isSome then s.refusal else some e }
    | none => return

def printLine (text : String) : Work Unit :=
  print (text ++ "\n")

def complainLine (text : String) : Work Unit := do
  let _ ← emit 2 (text ++ "\n")

-- A complaint of the shell tells its name, the line, and the command if there is one.
def complain (text : String) : Work Unit := do
  let s ← get
  let command := match s.running with
    | some c => c ++ ": "
    | none => ""
  complainLine (s.name ++ ": " ++ toString s.line ++ ": " ++ command ++ text)

-- Give up the script, unless a signal has ended the process.
def giveUp : Work Unit :=
  modify fun s => if s.flow matches .killed _ then s else { s with flow := .failed }

-- End the script with a status, also where a trap was to keep the one before it.
def endWith (status : Nat) : Work Unit :=
  modify fun s => { s with
    flow := .ended, trapStatus := s.trapStatus.map fun _ => status }

-- A failure that ends the script.
def failWith (text : String) : Work Unit := do
  complain text
  setStatus 2
  giveUp

-- All that is left to read from a stream.
def readAll (stream : Nat) : Work (Except Refusal String) := do
  let s ← get
  match s.opened stream with
  | .error e => return .error e
  | .ok o =>
    match s.machine.unread o with
    | .error e => return .error e
    | .ok cs =>
      setMachine (s.machine.advance o cs.length [])
      return .ok (String.ofList cs)

-- Some bytes from the front of a stream, as many as a function of what is there tells.
def readPart (stream : Nat) (count : List Char → Nat) : Work (Except Refusal (List Char)) := do
  let s ← get
  match s.opened stream with
  | .error e => return .error e
  | .ok o =>
    match s.machine.unread o with
    | .error e => return .error e
    | .ok cs =>
      let n := count cs
      setMachine (s.machine.advance o n (cs.drop n))
      return .ok (cs.take n)

-- Bytes that were read are there to be read again.
def giveBack (stream : Nat) (cs : List Char) : Work Unit := do
  let s ← get
  match s.opened stream with
  | .error _ => return
  | .ok o =>
    match o.device with
    | .pipe n => setMachine (s.machine.setPipe n (cs ++ s.machine.pipeContent n))
    | .file _ => setMachine (s.machine.setPosition o (s.machine.position o - cs.length))
    | _ => return

-- A program that took more from a stream than it needed does not miss anything.
def satisfy (stream : Nat) : Work Unit :=
  modify fun s =>
    match s.opened stream with
    | .ok o => { s with machine := s.machine.satisfy o }
    | .error _ => s

-- The bytes up to a line end, with it.
def readLine (stream : Nat) : Work (Except Refusal (List Char)) :=
  readPart stream fun cs =>
    let n := (cs.takeWhile (· ≠ '\n')).length
    if n < cs.length then n + 1 else n

-- The stream that a path stands for.
def streamPath? (path : String) : Option Nat :=
  match path with
  | "/dev/stdin" => some 0
  | "/dev/stdout" => some 1
  | "/dev/stderr" => some 2
  | _ =>
    if path.startsWith "/dev/fd/" then natural? (String.ofList (path.toList.drop 8))
    else if path.startsWith "/proc/self/fd/" then natural? (String.ofList (path.toList.drop 14))
    else none

def openDevice (device : Device) (opening : Opening) : Work Opened := do
  let (n, m) := (← get).machine.fresh
  setMachine m
  return { number := n, device := device, reads := opening = .read || opening = .readWrite,
           writes := opening ≠ .read, appends := opening = .append }

-- Open what a path leads to.
def openPath (path : String) (opening : Opening) : Work (Except Refusal Opened) := do
  let s ← get
  let full := Machine.resolve s.folder path
  if full = "/dev/tty" then return .error .noDevice
  match Machine.devices.lookup full, streamPath? full with
  | some d, _ => return .ok (← openDevice d opening)
  | none, some n =>
    match s.opened n with
    | .error _ => return .error .noEntry
    | .ok o =>
      match o.device with
      | .file path =>
        if opening = .write then
          modify fun s => { s with machine := s.machine.setEntry path (.file "" false) }
      | _ => pure ()
      return .ok (← openDevice o.device opening)
  | none, none =>
    match s.machine.find s.folder path with
    | .error e => return .error e
    | .ok (full, some .folder) =>
      if opening = .read then return .ok (← openDevice (.folder full) opening)
      else return .error .isFolder
    | .ok (full, some (.file _ x)) =>
      if opening = .create then return .error .present
      if opening = .write then
        modify fun s => { s with machine := s.machine.setEntry full (.file "" x) }
      return .ok (← openDevice (.file full) opening)
    | .ok (full, none) =>
      if opening = .read then return .error .noEntry
      else if path.endsWith "/" then return .error .isFolder
      else
        modify fun s => { s with machine := s.machine.setEntry full (.file "" false) }
        return .ok (← openDevice (.file full) opening)

-- All of a file, or of the input where the name is a dash.
def readNamed (name : String) : Work (Except Refusal String) := do
  if name = "-" then readAll 0
  else
    match ← openPath name .read with
    | .error e => return .error e
    | .ok o =>
      let s ← get
      match s.machine.unread o with
      | .error e => return .error e
      | .ok cs =>
        setMachine (s.machine.advance o cs.length [])
        modify fun s => { s with machine := s.machine.forget o }
        return .ok (String.ofList cs)

-- Replace the contents of a file.
def writeNamed (name text : String) (opening : Opening) : Work (Option Refusal) := do
  match ← openPath name opening with
  | .error e => return some e
  | .ok o =>
    match ← writeTo o text with
    | some e => return some e
    | none =>
      setMachine ((← get).machine.forget o)
      return none

-- Signals that have come in while another process was running.
def catchSignals : Work Unit := do
  let s ← get
  if s.machine.signals.any (·.1 = s.pid) then
    let mine := s.machine.signals.filter (·.1 = s.pid)
    let others := s.machine.signals.filter (·.1 ≠ s.pid)
    setMachine { s.machine with signals := others }
    mine.forM fun (_, n) => catchSignal n

-- A process does not outlive its time.
def endInTime : Work Unit := do
  let s ← get
  if s.isOn && s.lifetime.any (· ≤ s.machine.clock) then setFlow (.killed 9)

-- Time goes by. A process does not live longer than it may.
def sleepFor (milliseconds : Nat) : Work Unit := do
  setMachine (← get).machine.letOthers
  let s ← get
  let wake := s.machine.clock + milliseconds
  match s.deadline with
  | some d =>
    if wake > d then
      setMachine { s.machine with clock := d }
      setFlow (.killed 15)
    else setMachine { s.machine with clock := wake }
  | none => setMachine { s.machine with clock := wake }
  endInTime

end Rulebook.Script
