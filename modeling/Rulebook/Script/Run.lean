import Rulebook.Script.Evaluation
import Rulebook.Solver.Process

namespace Rulebook.Script

-- Programs that can be started on a machine of their own.

def usualVariables : List (String × String) :=
  [("HOME", "/root"),
   ("PATH", usualPath)]

-- The users of a machine, with their homes.
def users : String := unlines
  ["root:x:0:0:root:/root:/bin/bash",
   "daemon:x:1:1:daemon:/usr/sbin:/usr/sbin/nologin",
   "bin:x:2:2:bin:/bin:/usr/sbin/nologin",
   "sys:x:3:3:sys:/dev:/usr/sbin/nologin",
   "sync:x:4:65534:sync:/bin:/bin/sync",
   "games:x:5:60:games:/usr/games:/usr/sbin/nologin",
   "man:x:6:12:man:/var/cache/man:/usr/sbin/nologin",
   "lp:x:7:7:lp:/var/spool/lpd:/usr/sbin/nologin",
   "mail:x:8:8:mail:/var/mail:/usr/sbin/nologin",
   "news:x:9:9:news:/var/spool/news:/usr/sbin/nologin",
   "uucp:x:10:10:uucp:/var/spool/uucp:/usr/sbin/nologin",
   "proxy:x:13:13:proxy:/bin:/usr/sbin/nologin",
   "www-data:x:33:33:www-data:/var/www:/usr/sbin/nologin",
   "backup:x:34:34:backup:/var/backups:/usr/sbin/nologin",
   "list:x:38:38:Mailing List Manager:/var/list:/usr/sbin/nologin",
   "irc:x:39:39:ircd:/run/ircd:/usr/sbin/nologin",
   "_apt:x:42:65534::/nonexistent:/usr/sbin/nologin",
   "nobody:x:65534:65534:nobody:/nonexistent:/usr/sbin/nologin"]

-- A process on a machine where nothing has happened yet. It has an input and an output, and nobody
-- sees its complaints.
def firstProcess (around : Surroundings) : Shell :=
  let (parent, m) :=
    ({ programs := toolNames, entries := [("/etc/passwd", .file users false)] } : Machine).fresh
  let (pid, m) := m.fresh
  let (source, m) := m.newPipe
  let (target, m) := m.newPipe
  let (complaints, m) := m.newPipe
  let m := ((m.pushPipe source (octets around.input)).setBound target false).setBound complaints
    false
  let m := (m.setByLine target around.outputByLine).setByLine complaints around.diagnosticsByLine
  { machine := { m with alive := [pid] }
    pid := pid
    scriptPid := parent
    streams :=
      [(0, { number := source, device := .pipe source, writes := false }),
       (1, { number := target, device := .pipe target, reads := false }),
       (2, if around.diagnosticsByLine then
          { number := complaints, device := .pipe complaints, reads := false }
         else { number := complaints, device := .nothing })]
    bindings := usualVariables.map fun (name, v) => (name, { value := some v, exported := true }) }

-- No script that ends takes so many steps.
def patience : Nat := 1000000

-- All that has gone into a pipe and has not been read.
def Shell.waiting (s : Shell) (stream : Nat) : List Char :=
  match s.streams.lookup stream with
  | some { device := .pipe n, .. } => s.machine.pipeContent n
  | _ => []

-- Whether a process still has what another one had as a stream.
def Shell.has (s : Shell) (stream : Nat) (first : Shell) : Bool :=
  (first.streams.lookup stream).any fun o => s.streams.any (·.2.number = o.number)

-- Whether a process goes on for longer than so many thousandths of a second.
def Shell.isLate (s : Shell) (time : Option Nat) : Bool :=
  time.any fun t => s.flow = .endless || (s.flow = .killed 9 && t ≤ s.machine.clock)

-- What a program does with its input. Its jobs go on after its end.
def runProgram (file name : String) (args : List String) (around : Surroundings) : ProgramRun :=
  let first := firstProcess around
  let run : Work Unit := do
    endInTime
    Evaluation.program patience file name args
  let last : Shell := (run.run { first with lifetime := around.time }).2
  let settled : Shell := (settleAll.run last).2
  let held : Shell := { settled with streams := first.streams }
  { output := (held.waiting 1).map fun c => c.toNat.toUInt8
    ending :=
      if last.isLate around.time then none
      else
        match last.flow with
        | .killed _ | .endless => some .killed
        | _ => some (.exited last.ending.status)
    unread := (held.waiting 0).length
    outlivesOutput := last.has 0 first && !last.has 1 first }

-- A name with what it is given, as a program. Texts with zeros in them cannot be given.
def program? : Installed := fun binary args =>
  if (binary :: args).any (·.contains '\x00') then none
  else
    let first := firstProcess { input := "" }
    match programFile? first (first.value "PATH") (octets binary) with
    | .ok file => some (runProgram file (octets binary) (args.map octets))
    | .error _ => none

end Rulebook.Script
