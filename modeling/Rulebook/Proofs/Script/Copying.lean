import Rulebook.Proofs.Solver.Echo
import Rulebook.Script.Run

-- What programs on the machine do that copy their input.

namespace Rulebook.Script

-- Who reads line by line takes nothing out of a pipe.
theorem Pipe.seen_content (p : Pipe) (text : String) :
    (p.seen text).front = p.front ∧ (p.seen text).arrived = p.arrived := by
  unfold Pipe.seen
  cases p.ignored with
  | some n => exact ⟨rfl, rfl⟩
  | none =>
    simp only
    split <;> exact ⟨rfl, rfl⟩

namespace Machine

section Put

variable {α β : Type} [BEq α] [LawfulBEq α]

theorem lookup_put_self (key : α) (value : β) (l : List (α × β)) :
    (put key value l).lookup key = some value := by
  induction l with
  | nil => simp [put]
  | cons e l ih =>
    obtain ⟨k, v⟩ := e
    by_cases hk : k = key
    · simp [put, hk]
    · simp [put, hk, List.lookup_cons, beq_eq_false_iff_ne.mpr (Ne.symm hk), ih]

theorem lookup_put_of_ne {key k : α} (h : k ≠ key) (value : β) (l : List (α × β)) :
    (put key value l).lookup k = l.lookup k := by
  induction l with
  | nil => simp [put, List.lookup_cons, beq_eq_false_iff_ne.mpr h]
  | cons e l ih =>
    obtain ⟨k', v⟩ := e
    by_cases hk : k' = key
    · simp [put, hk, List.lookup_cons, beq_eq_false_iff_ne.mpr h]
    · simp [put, hk, List.lookup_cons, ih]

end Put

-- What is in a pipe, in the order in which it has gone in.
theorem pipeContent_eq (m : Machine) (n : Nat) :
    m.pipeContent n = (m.pipe n).front ++ (String.join (m.pipe n).arrived.reverse).toList := by
  simp only [pipeContent]
  split
  next h => simp [h]
  next s h => cases hfront : (m.pipe n).front <;> simp [h]
  next => rfl

theorem pipeContent_congr {m m' : Machine} {n : Nat} (h : m'.pipe n = m.pipe n) :
    m'.pipeContent n = m.pipeContent n := by
  rw [pipeContent_eq, pipeContent_eq, h]

variable {m : Machine} {n k : Nat}

theorem pipe_of_pipes_eq {p : Pipe} {m' : Machine} (h : m'.pipes = put n p m.pipes) :
    m'.pipe n = p := by
  rw [pipe, h, lookup_put_self, Option.getD_some]

theorem pipe_of_ne {p : Pipe} {m' : Machine} (h : m'.pipes = put n p m.pipes) (hne : k ≠ n) :
    m'.pipe k = m.pipe k := by
  rw [pipe, h, lookup_put_of_ne hne, pipe]

theorem pipeContent_setPipe (m : Machine) (n : Nat) (content : List Char) :
    (m.setPipe n content).pipeContent n = content := by
  rw [pipeContent_eq, pipe_of_pipes_eq rfl]
  simp

theorem pipe_setPipe_of_ne (hne : k ≠ n) (content : List Char) :
    (m.setPipe n content).pipe k = m.pipe k :=
  pipe_of_ne rfl hne

-- What goes into a pipe comes last in it.
theorem pipeContent_pushPipe (m : Machine) (n : Nat) (text : String) :
    (m.pushPipe n text).pipeContent n = m.pipeContent n ++ text.toList := by
  have hseen := Pipe.seen_content (m.pipe n) text
  rw [pipeContent_eq, pipeContent_eq, pushPipe, pipe_of_pipes_eq rfl]
  cases (m.pipe n).byLine <;> simp [hseen]

theorem pipe_pushPipe_of_ne (hne : k ≠ n) (text : String) :
    (m.pushPipe n text).pipe k = m.pipe k :=
  pipe_of_ne rfl hne

end Machine

-- The same process on a machine to which something has happened.
def Shell.withMachine (m : Machine) (s : Shell) : Shell :=
  { s with machine := m }

@[simp] theorem Shell.withMachine_machine (m : Machine) (s : Shell) :
    (s.withMachine m).machine = m :=
  rfl

@[simp] theorem Shell.withMachine_withMachine (m m' : Machine) (s : Shell) :
    (s.withMachine m).withMachine m' = s.withMachine m' :=
  rfl

namespace Work

variable {α β : Type} {s : Shell}

theorem run_pure (a : α) : (pure a : Work α).run s = (a, s) :=
  rfl

theorem run_bind (x : Work α) (f : α → Work β) :
    (x >>= f).run s = (f (x.run s).1).run (x.run s).2 :=
  rfl

theorem run_modify (f : Shell → Shell) : (modify f : Work Unit).run s = ((), f s) :=
  rfl

theorem run_get : (get : Work Shell).run s = (s, s) :=
  rfl

end Work

theorem run_setMachine (m : Machine) (s : Shell) : (setMachine m).run s = ((), s.withMachine m) :=
  rfl

variable {s : Shell} {o : Opened} {n : Nat}

theorem readAll_pipe {stream : Nat} (hstream : s.streams.lookup stream = some o)
    (hreads : o.reads = true) (hdevice : o.device = .pipe n) :
    (readAll stream).run s =
      (.ok (String.ofList (s.machine.pipeContent n)), s.withMachine (s.machine.setPipe n [])) := by
  have hunread : s.machine.unread o = .ok (s.machine.pipeContent n) := by
    simp [Machine.unread, hreads, hdevice]
  have hadvance (count : Nat) : s.machine.advance o count [] = s.machine.setPipe n [] := by
    simp [Machine.advance, hdevice]
  simp only [readAll, Work.run_bind, Work.run_get, Shell.opened, hstream, hunread, hadvance,
    run_setMachine, Work.run_pure]

-- A process that is on writes to a pipe that somebody reads, however full it is.
theorem print_pipe (hflow : s.flow = .on) (hstream : s.streams.lookup 1 = some o)
    (hwrites : o.writes = true) (hdevice : o.device = .pipe n)
    (hread : (s.machine.pipe n).deserted = false) (hbound : (s.machine.pipe n).bounded = false)
    (text : String) :
    (print text).run s =
      ((), s.withMachine
        (if text.isEmpty then s.machine else s.machine.pushPipe n text)) := by
  have hwrite : s.machine.write o text = .ok (s.machine.pushPipe n text) := by
    simp [Machine.write, hwrites, hdevice, hread, hbound]
  cases htext : text.isEmpty with
  | true =>
    simp [print, htext]
    rfl
  | false =>
    simp [print, htext, emit, hflow, Shell.opened, hstream, writeTo, hwrite, run_setMachine]

-- A process that is on, with the reading end of one pipe and the writing end of another one.
structure Shell.Piped (s : Shell) (source target : Nat) : Prop where
  on : s.flow = .on
  input : ∃ o, s.streams.lookup 0 = some o ∧ o.reads = true ∧ o.device = .pipe source
  output : ∃ o, s.streams.lookup 1 = some o ∧ o.writes = true ∧ o.device = .pipe target
  ne : target ≠ source
  read : (s.machine.pipe target).deserted = false
  unbound : (s.machine.pipe target).bounded = false

-- What a process with pipes has read from the one and written to the other.
def Machine.copied (source target : Nat) (m : Machine) : Machine :=
  let text := String.ofList (m.pipeContent source)
  let m := m.setPipe source []
  if text.isEmpty then m else m.pushPipe target text

-- Without arguments the input is copied as it is.
theorem catTool_nil {source target : Nat} (h : s.Piped source target) :
    (catTool []).run s = (0, s.withMachine (s.machine.copied source target)) := by
  obtain ⟨i, hi, hreads, hsource⟩ := h.input
  obtain ⟨o, ho, hwrites, htarget⟩ := h.output
  have hread := readAll_pipe hi hreads hsource
  have hpipe := Machine.pipe_setPipe_of_ne (m := s.machine) h.ne []
  have hprint := print_pipe (s := s.withMachine (s.machine.setPipe source [])) h.on ho
    hwrites htarget (hpipe ▸ h.read) (hpipe ▸ h.unbound)
    (String.ofList (s.machine.pipeContent source))
  have hopened : s.opened 1 = .ok o := by simp [Shell.opened, ho]
  have hplain : Copying.isPlain (Copying.styleOf {}) = true := rfl
  have hparse : OptionForm.parse Copying.forms true [] = .ok {} := rfl
  simp only [catTool, withOptions, hparse, Work.run_bind, Work.run_get, hopened, Copying.files,
    readNamed, if_true, List.isEmpty_nil, hread, hplain, hprint]
  rfl

-- A process that begins to run a program.
def Shell.begun (s : Shell) : Shell :=
  { s with machine := s.machine.letOthers, running := none, refusal := none }

theorem run_endTool (hrefusal : s.refusal = none) {tool : String}
    (htool : tool ∉ ["awk", "mawk", "sed"]) (status : Nat) :
    (endTool tool status).run s = (setStatus status).run s := by
  simp only [endTool, Work.run_bind, Work.run_get, htool, hrefusal, decide_false,
    Bool.false_and, Bool.false_eq_true, if_false]

theorem run_program_cat {source target : Nat} (h : s.begun.Piped source target)
    (hprogram : s.machine.isProgram "/usr/bin/cat" = true) (fuel : Nat) :
    (Evaluation.program (fuel + 1) "/usr/bin/cat" "cat" []).run s =
      ((),
        { s.begun.withMachine (s.machine.letOthers.copied source target) with status := 0 }) := by
  have hname : Machine.baseName "/usr/bin/cat" = "cat" := by decide +kernel
  have htool : tools.lookup "cat" = some catTool := rfl
  have hon : s.begun.isOn = true := by simp [Shell.isOn, h.on]
  have hprogram : s.begun.machine.isProgram "/usr/bin/cat" = true := hprogram
  rw [Evaluation.program, Work.run_bind, Work.run_modify, ← Shell.begun, Work.run_bind,
    Work.run_get]
  simp only [hon, hprogram, hname, htool, Bool.not_true, Bool.false_eq_true, if_false,
    Work.run_bind, catTool_nil h]
  rw [run_endTool rfl (by decide)]
  rfl

theorem waiting_eq {stream : Nat} (hstream : s.streams.lookup stream = some o)
    (hdevice : o.device = .pipe n) : s.waiting stream = s.machine.pipeContent n := by
  obtain ⟨number, device, reads, writes, appends⟩ := o
  obtain rfl : device = .pipe n := hdevice
  rw [Shell.waiting, hstream]

theorem pipeContent_copied {source target : Nat} (hne : target ≠ source) (m : Machine) :
    (m.copied source target).pipeContent source = [] ∧
      (m.copied source target).pipeContent target =
        m.pipeContent target ++ m.pipeContent source := by
  have hsource := Machine.pipeContent_setPipe m source []
  have htarget := Machine.pipeContent_congr (Machine.pipe_setPipe_of_ne (m := m) hne [])
  simp only [Machine.copied]
  split
  next hempty =>
    refine ⟨hsource, ?_⟩
    have hnil : m.pipeContent source = [] := by simpa using hempty
    rw [htarget, hnil, List.append_nil]
  next =>
    refine ⟨?_, ?_⟩
    · rw [Machine.pipeContent_congr (Machine.pipe_pushPipe_of_ne hne.symm _), hsource]
    · rw [Machine.pipeContent_pushPipe, htarget, String.toList_ofList]

-- The bytes that a text of bytes stands for.
theorem bytes_octets (text : String) :
    (octets text).toList.map (fun c => c.toNat.toUInt8) = Bytes.ofText text := by
  have hbyte (b : UInt8) : (Char.ofNat b.toNat).toNat.toUInt8 = b := by
    have hchar : ∀ n < 256, (Char.ofNat n).toNat = n := by decide +kernel
    rw [hchar _ b.toNat_lt]
    simp
  rw [octets, String.toList_ofList, List.map_map]
  exact (List.map_congr_left fun b _ => hbyte b).trans (List.map_id _)

-- The first process, which does not outlive its time.
def startedProcess (around : Surroundings) : Shell :=
  { firstProcess around with lifetime := around.time }

-- A program that ends by itself, with the streams that it had at first and without jobs.
theorem runProgram_of_on {file name : String} {args : List String} {around : Surroundings}
    {last : Shell}
    (hrun : (endInTime >>= fun _ => Evaluation.program patience file name args : Work Unit).run
      (startedProcess around) = ((), last))
    (hflow : last.flow = .on) (hjobs : last.jobs = [])
    (hstreams : last.streams = (firstProcess around).streams) :
    runProgram file name args around =
      { output := (last.waiting 1).map fun c => c.toNat.toUInt8
        ending := some (.exited (last.status % 256))
        unread := (last.waiting 0).length } := by
  have hsettled : (settleAll.run last).2 = last := by
    simp only [settleAll, Work.run_bind, Work.run_get, hjobs, List.length_nil, settleJobs,
      Work.run_pure]
  have hheld : { last with streams := (firstProcess around).streams } = last := by
    rw [← hstreams]
  have hlate : last.isLate around.time = false := by
    simp [Shell.isLate, hflow]
  have hending : last.ending = .exited (last.status % 256) := by
    simp [Shell.ending, hflow]
  have houtput : last.has 1 (firstProcess around) = true := by
    rw [Shell.has, hstreams]
    rfl
  unfold startedProcess at hrun
  simp only [runProgram, hrun, hsettled, hheld]
  simp only [hlate, hflow, hending, houtput, Bool.not_true, Bool.and_false, Bool.false_eq_true,
    if_false, End.status]

theorem runProgram_cat {around : Surroundings} (htime : around.time ≠ some 0) :
    runProgram "/usr/bin/cat" "cat" [] around =
      { output := Bytes.ofText around.input, ending := some (.exited 0) } := by
  have hclock : (startedProcess around).machine.clock = 0 := rfl
  have htime : (startedProcess around).lifetime.any (· ≤ 0) = false := by
    change around.time.any (· ≤ 0) = false
    cases h : around.time with
    | none => rfl
    | some t =>
      have ht : t ≠ 0 := fun ht => htime (ht ▸ h)
      simp [ht]
  have hend : endInTime.run (startedProcess around) = ((), startedProcess around) := by
    simp only [endInTime, Work.run_bind, Work.run_get, hclock, htime, Bool.and_false,
      Bool.false_eq_true, if_false, Work.run_pure]
  have hpiped : (startedProcess around).begun.Piped 1002 1003 :=
    ⟨rfl, ⟨_, rfl, rfl, rfl⟩, ⟨_, rfl, rfl, rfl⟩, by decide, rfl, rfl⟩
  have hprogram : (startedProcess around).machine.isProgram "/usr/bin/cat" = true := by
    have hprograms : (startedProcess around).machine.programs = toolNames := rfl
    rw [Machine.isProgram, hprograms]
    decide +kernel
  have hinput : (startedProcess around).machine.letOthers.pipeContent 1002 =
      (octets around.input).toList := rfl
  have houtput : (startedProcess around).machine.letOthers.pipeContent 1003 = [] := rfl
  obtain ⟨hsource, htarget⟩ := pipeContent_copied (by decide : 1003 ≠ 1002)
    (startedProcess around).machine.letOthers
  rw [hinput, houtput, List.nil_append] at htarget
  have hpatience : patience = 999999 + 1 := rfl
  have hrun := run_program_cat hpiped hprogram 999999
  rw [← hpatience] at hrun
  generalize (startedProcess around).machine.letOthers.copied 1002 1003 = m at *
  let last : Shell := { (startedProcess around).begun.withMachine m with status := 0 }
  have hwhole : (endInTime >>= fun _ => Evaluation.program patience "/usr/bin/cat" "cat" [] :
      Work Unit).run (startedProcess around) = ((), last) := by
    rw [Work.run_bind, hend]
    exact hrun
  have hread : last.waiting 0 = [] := (waiting_eq rfl rfl).trans hsource
  have hwritten : last.waiting 1 = (octets around.input).toList :=
    (waiting_eq rfl rfl).trans htarget
  rw [runProgram_of_on hwhole rfl rfl rfl, hread, hwritten, bytes_octets]
  rfl

-- What is found under its name copies its input.
theorem echoes_cat : ∃ p, program? "cat" [] = some p ∧ Echoes p := by
  have hname : octets "cat" = "cat" := by decide +kernel
  have hslash : "cat".contains '/' = false := by simp
  have hzero : ["cat"].any (·.contains '\x00') = false := by simp
  have hfile : programFile? (firstProcess { input := "" })
      ((firstProcess { input := "" }).value "PATH") "cat" = .ok "/usr/bin/cat" := by
    rw [programFile?, hslash]
    decide +kernel
  refine ⟨runProgram "/usr/bin/cat" "cat" [], ?_, fun around => runProgram_cat⟩
  simp only [program?, hzero, hname, hfile, Bool.false_eq_true, if_false, List.map_nil]

-- As a solver it answers with the program that it is given, line by line.
theorem runSolver_cat {settings : SolverSettings} (hbinary : settings.binary = "cat")
    (hargs : settings.args = []) (htime : settings.timeoutSeconds ≠ some 0) {kb : KnowledgeBase}
    (hmade : ∀ s ∈ kb.statements, s.Made) (solver : Solver) :
    runSolver program? solver settings kb =
      .ok { output := (Rendering.programLines solver kb.statements).map (·.text)
            timedOut := false } := by
  obtain ⟨p, hp, hecho⟩ := echoes_cat
  exact runSolver_of_echoes (by rw [hbinary, hargs, hp]) hecho htime hmade solver

-- It answers with what it is given in whatever pieces.
theorem read_cat {p : SolverProcess} (hbinary : p.settings.binary = "cat")
    (hargs : p.settings.args = []) (pieces : List String) (last : String) :
    let q := pieces.foldl (fun q t => (q.write t).2) (p.exec program?).2
    (q.writeLast last).1 = .ok true ∧
      (q.writeLast last).2.read.1 = .ok (String.join pieces ++ last) := by
  obtain ⟨program, hprogram, hecho⟩ := echoes_cat
  exact SolverProcess.read_of_echoes (by rw [hbinary, hargs, hprogram]) hecho pieces last

end Rulebook.Script
