import Rulebook.Script.Shell

namespace Rulebook.Script

-- Processes that a shell starts.

-- No more than so many functions are inside one another, and no more than so many processes.
def depthLimit : Nat := 1000

def nestingLimit : Nat := 1500

namespace Shell

-- A process of its own that starts with what this one has. It only remembers which signals are
-- ignored.
def child (s : Shell) : Shell :=
  let (pid, m) := s.machine.fresh
  { s with
    machine := { m.letOthers with alive := pid :: m.alive }
    pid := pid
    traps := s.traps.filter (·.2.isEmpty)
    caught := []
    jobs := []
    trapStatus := none
    flow := if s.nesting < nestingLimit then .on else .endless
    nesting := s.nesting + 1
    refusal := none
    lifetime := none }

-- The machine after this process.
def left (s : Shell) : Machine :=
  { s.machine with alive := s.machine.alive.erase s.pid }

-- What others learn about the end of a process.
def ending (s : Shell) : End :=
  match s.flow with
  | .killed n => .killed n
  | _ => .exited (s.status % 256)

end Shell

-- What is said of a process that was waited for.
def End.tell : End → Work Unit
  | exited _ => return
  | killed n => do
    match signalText? n with
    | some text => complainLine text
    | none => return

-- The end of a process becomes the status. It is told if it was not in order.
def End.count (e : End) : Work Unit := do
  e.tell
  setStatus e.status

-- Jobs

-- Let something run in the background. Its time begins now.
def startJob (act : Work Unit) : Work Unit := do
  let s ← get
  let c := s.child
  let run (limit : Option Nat) (m : Machine) : Option (End × Machine) :=
    let deadline := match c.deadline, limit with
      | some d, some n => some (min d (n + 1))
      | d, n => d.orElse fun _ => n.map (· + 1)
    let after : Shell := ((catchSignals *> act).run { c with machine := m, deadline := deadline }).2
    if limit.any (after.machine.clock > ·) then none else some (after.ending, after.left)
  let j : Job := { pid := c.pid, start := c.machine.clock, run := run }
  set { s with
    machine := c.machine
    jobs := s.jobs ++ [j]
    lastJob := some c.pid }

-- A job with its end, when that was, and the machine after it. Nobody else's time goes by.
def Job.settled? (limit : Option Nat) (j : Job) (m : Machine) : Option (Nat × Job × Machine) :=
  (j.run limit { m with clock := j.start }).map fun (ending, after) =>
    (after.clock, { j with ending := some ending }, { after with clock := m.clock })

-- The job that ends first of those that are still running, if it ends in time.
def firstSettled (limit : Option Nat) (m : Machine) : List Job → Option (Nat × Job × Machine)
  | [] => none
  | j :: js =>
    let others := firstSettled limit m js
    match if j.ending.isSome then none else j.settled? limit m, others with
    | some (clock, j, after), some (clock', j', after') =>
      if clock ≤ clock' then some (clock, j, after) else some (clock', j', after')
    | some first, none => some first
    | none, others => others

-- Let jobs run that end in time, in the order of their ends. The result is when the last one ends.
def settleJobs (limit : Option Nat) : (fuel : Nat) → (last : Nat) → Work Nat
  | 0, last => return last
  | fuel + 1, last => do
    let s ← get
    match firstSettled limit s.machine s.jobs with
    | none => return last
    | some (clock, j, m) =>
      let jobs := s.jobs.map fun (k : Job) => if k.pid = j.pid then j else k
      set { s with machine := m, jobs := jobs }
      catchSignal childSignal
      settleJobs limit fuel (max last clock)

-- Let all jobs end.
def settleAll : Work Nat := do
  let s ← get
  settleJobs none s.jobs.length s.machine.clock

-- Let jobs end whose time is over.
def settleOver : Work Unit := do
  let s ← get
  if s.jobs.any (·.ending.isNone) then
    let _ ← settleJobs (some s.machine.clock) s.jobs.length s.machine.clock

-- Do something in a process of its own, and wait for its end. Jobs are quicker than another
-- process. Those of the process are left to this one, which ends with it when its time is over.
def inChild (act : Work Unit) : Work End := do
  settleOver
  let s ← get
  let c : Shell := (act.run s.child).2
  let orphans := c.jobs.map fun j => { j with orphaned := true }
  let isLate := c.flow = Flow.killed 15 && s.deadline.any (· ≤ c.machine.clock)
  set { s with
    machine := c.left
    jobs := s.jobs ++ orphans
    flow := if c.flow = Flow.endless || isLate then c.flow else s.flow }
  if c.machine.clock > s.machine.clock then settleOver
  endInTime
  catchSignals
  catchSignal childSignal
  return c.ending

-- Wait for a job. The status of a process that is none tells so.
def waitFor (pid : Nat) : Work Nat := do
  let s ← get
  match s.jobs.find? (fun j => j.pid = pid && !j.orphaned) with
  | none => return 127
  | some j =>
    match j.ending with
    | some e => return e.status
    | none =>
      let end? := (j.settled? none s.machine).map (·.1)
      let last ← settleJobs end? s.jobs.length s.machine.clock
      modify fun s => { s with machine := { s.machine with clock := max s.machine.clock last } }
      endInTime
      catchSignals
      match ((← get).jobs.find? (·.pid = pid)).bind (·.ending) with
      | some e =>
        e.tell
        return e.status
      | none => return 127

-- Wait for all jobs, which are then forgotten.
def waitForAll : Work Unit := do
  let last ← settleAll
  modify fun s => { s with
    machine := { s.machine with clock := max s.machine.clock last }
    jobs := [] }
  endInTime
  catchSignals

-- Send a signal. Zero only asks whether there is such a process.
def sendSignal (pid signal : Nat) : Work Bool := do
  let s ← get
  if pid = s.pid || pid = 0 then
    if signal ≠ 0 then catchSignal signal
    return true
  else if pid ∈ s.machine.alive then
    if signal ≠ 0 then
      setMachine { s.machine with signals := s.machine.signals ++ [(pid, signal)] }
    return true
  else return false

end Rulebook.Script
