import Rulebook.Script.Builtin.Variable
import Rulebook.Script.Process

namespace Rulebook.Script

-- Commands of the shell that are about its own end and other processes.

def exitBuiltin (args : List String) : Work Nat := do
  let s ← get
  match args with
  | [] =>
    setFlow .ended
    return s.trapStatus.getD s.status
  | a :: _ =>
    withNumber a fun n => do
      endWith n
      return n

def returnBuiltin (args : List String) : Work Nat := do
  let s ← get
  match args with
  | [] =>
    setFlow .returning
    return s.status
  | a :: _ =>
    withNumber a fun n => do
      setFlow .returning
      return n

-- Leave or go on with so many loops, but no more than there are.
def leaveLoops (flow : Nat → Flow) (args : List String) : Work Nat := do
  let a := args.headD "1"
  withNumber a fun n => do
    if n = 0 then refuse ("Illegal number: " ++ a)
    else
      let n := min n (← get).loops
      if n > 0 then setFlow (flow n)
      return 0

-- What happens on a signal.
def setTrap (action : Option String) (name : String) (s : Shell) : Shell :=
  { s with traps :=
      match action with
      | some text => Machine.put name text s.traps
      | none => Machine.drop name s.traps }

def setTraps (action : Option String) : List String → Work Nat
  | [] => return 0
  | name :: names => do
    match signalNumber? name with
    | none =>
      complainLine ("trap: " ++ name ++ ": bad trap")
      return 1
    | some n =>
      modify (setTrap action (signalName n))
      setTraps action names

def trapBuiltin (args : List String) : Work Nat :=
  withLetters "" "" args fun _ args => do
    match args with
    | [] =>
      let traps := (← get).traps
      let names := "EXIT" :: signals.map (·.1)
      print <| String.join <| names.filterMap fun name =>
        (traps.lookup name).map fun text =>
          "trap -- " ++ singleQuoted text ++ " " ++ name ++ "\n"
      return 0
    | [name] => setTraps none [name]
    | action :: names => setTraps (if action = "-" then none else some action) names

namespace Killing

def usage : String :=
  "Usage: kill [-s sigspec | -signum | -sigspec] [pid | job]... or\nkill -l [exitstatus]"

-- A signal that can be sent, by number or name.
def signal? (s : String) : Option Nat :=
  if upper s = "EXIT" then none else signalNumber? s

def list (args : List String) : Work Nat := do
  match args with
  | [] =>
    print ("0\n" ++ unlines (signals.map (·.1)))
    return 0
  | a :: _ =>
    withNumber a fun n => do
      let n := if n > 128 then n - 128 else n
      if 0 < n && n < 65 then
        printLine (signalName n)
        return 0
      else refuse ("invalid signal number or exit status: " ++ a)

-- Send a signal to one process after the other. Jobs are no groups of processes that can get one.
def sendAll (signal : Nat) : (status : Nat) → List String → Work Nat
  | status, [] => return status
  | status, a :: args => do
    if a.startsWith "%" then
      if (← get).jobs.isEmpty then refuse ("No such job: " ++ a)
      else
        complain "No such process\n"
        sendAll signal 1 args
    else
      let digits := if a.startsWith "-" then String.ofList (a.toList.drop 1) else a
      match integer? 10 digits with
      | none => refuse ("Illegal number: " ++ a)
      | some n =>
        if ← sendSignal n.toNat signal then
          if ← isOn then sendAll signal status args else return status
        else
          complain "No such process\n"
          sendAll signal 1 args

end Killing

open Killing in
def killBuiltin (args : List String) : Work Nat := do
  let front? :=
    match args with
    | a :: rest =>
      match a.toList with
      | '-' :: c :: name => (signal? (String.ofList (c :: name))).map fun n => (n, rest)
      | _ => none
    | [] => none
  match front? with
  | some (_, []) => refuse usage
  | some (signal, pids) => sendAll signal 0 pids
  | none =>
    withLetters "l" "s" args fun options rest => do
      if options.any (·.1 = 'l') then list rest
      else
        match options.lookup 's' with
        | some name =>
          match signal? name with
          | some signal => if rest.isEmpty then refuse usage else sendAll signal 0 rest
          | none => refuse ("invalid signal number or name: " ++ name)
        | none => if rest.isEmpty then refuse usage else sendAll 15 0 rest

-- Wait for one process after the other. The last one tells the status.
def waitEach : (status : Nat) → List String → Work Nat
  | status, [] => return status
  | _, a :: args => do
    if a.startsWith "%" then
      match (← get).jobs.getLast? with
      | some j =>
        let status ← waitFor j.pid
        if ← isOn then waitEach status args else return status
      | none => refuse ("No such job: " ++ a)
    else
      withNumber a fun pid => do
        let status ← waitFor pid
        if ← isOn then waitEach status args else return status

def waitBuiltin (args : List String) : Work Nat :=
  withLetters "" "" args fun _ args => do
    if args.isEmpty then
      waitForAll
      return 0
    else waitEach 0 args

end Rulebook.Script
