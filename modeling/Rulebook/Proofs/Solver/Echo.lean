import Rulebook.Proofs.Rendering.Program
import Rulebook.Proofs.Utf8
import Rulebook.Solver.Process

namespace Rulebook

-- A program that writes what it is given, and ends. Without any time it may do anything.
def Echoes (p : Program) : Prop :=
  ∀ around, around.time ≠ some 0 →
    p around = { output := Bytes.ofText around.input, ending := some (.exited 0) }

-- Lines that hold no line end and no carriage return are read back as they are.
theorem outputLines_ofText {s : String} {lines : List String}
    (hs : s.toList = (lines.map String.toList).flatMap (· ++ ['\n']))
    (hlines : ∀ l ∈ lines, '\n' ∉ l.toList ∧ '\r' ∉ l.toList) :
    outputLines (Bytes.ofText s) = lines := by
  have hsplit : (Bytes.ofText s).splitOn 10 = lines.map Bytes.ofText ++ [[]] := by
    have hchars : s.toList.splitOn '\n' = lines.map String.toList ++ [[]] := by
      rw [hs]
      refine splitOn_flatMap (List.forall_mem_map.mpr fun l hl => (hlines l hl).1)
    have hempty : Bytes.ofText "" = [] := rfl
    refine (Bytes.splitOn_ofText (a := '\n') (by decide) s).trans ?_
    simp [hchars, hempty]
  have hreturn : ∀ l ∈ lines.map Bytes.ofText,
      (if l.getLast? = some 13 then l.dropLast else l) = l := by
    refine List.forall_mem_map.mpr fun l hl => if_neg fun h => ?_
    exact (hlines l hl).2 ((Bytes.mem_ofText (by decide)).mp (List.mem_of_getLast? h))
  have hcomplete : (lines.map Bytes.ofText).map
      (fun l => if l.getLast? = some 13 then l.dropLast else l) = lines.map Bytes.ofText :=
    (List.map_congr_left hreturn).trans (List.map_id _)
  have htexts : (lines.map Bytes.ofText).map Bytes.text? = lines.map some := by
    simp
  have hall : ∀ l ∈ lines.map some, l.isSome = true := by
    simp
  simp only [outputLines, hsplit, List.dropLast_concat, hcomplete, List.getLast?_concat,
    Option.getD_some, List.isEmpty_nil, if_true, List.append_nil, htexts]
  rw [List.takeWhile_eq_self_iff.mpr hall]
  simp

-- The rendered knowledge base comes back, line by line.
theorem runSolver_of_echoes {installed : Installed} {settings : SolverSettings} {p : Program}
    {kb : KnowledgeBase} (hinstalled : installed settings.binary settings.args = some p)
    (hecho : Echoes p) (htime : settings.timeoutSeconds ≠ some 0)
    (hmade : ∀ s ∈ kb.statements, s.Made) (solver : Solver) :
    runSolver installed solver settings kb =
      .ok { output := (Rendering.programLines solver kb.statements).map (·.text)
            timedOut := false } := by
  have hlines : ∀ l ∈ (Rendering.programLines solver kb.statements).map (·.text),
      '\n' ∉ l.toList ∧ '\r' ∉ l.toList := by
    refine List.forall_mem_map.mpr fun l hl => ?_
    have hlegal := Rendering.legal_of_mem_programLines hmade solver l hl
    exact ⟨Rendering.LineText.newline_not_mem hlegal,
      Rendering.LineText.not_mem_text hlegal rfl (by decide)⟩
  have hprogram := Rendering.toList_program solver kb.statements
  rw [← Function.comp_def String.toList, ← List.map_map] at hprogram
  have htime : settings.timeoutSeconds.map (· * 1000) ≠ some 0 := by
    intro h
    obtain ⟨n, hn, hzero⟩ := Option.map_eq_some_iff.mp h
    obtain rfl : n = 0 := by omega
    exact htime hn
  simp only [runSolver, hinstalled]
  rw [hecho _ htime]
  simp only [outputLines_ofText hprogram hlines]
  rfl

namespace Started

variable {s : Started} {t : String}

-- All that has been taken from the writer, delivered or not.
def written (s : Started) : String :=
  s.delivered ++ s.gathered

theorem flush_eq (s : Started) : s.flush =
    if s.gathered = "" then (true, s)
    else if s.takes s.gathered then
      (true, { s with delivered := s.delivered ++ s.gathered, gathered := "" })
    else (false, { s with broken := true }) := by
  unfold flush deliver
  simp only [String.isEmpty_iff]
  split
  · rfl
  · cases s.takes s.gathered <;> rfl

-- Nothing gets lost when what has gathered is delivered, and nothing when it cannot be.
theorem written_flush (s : Started) : s.flush.2.written = s.written := by
  rw [flush_eq]
  split
  · rfl
  · split <;> simp [written]

theorem gathered_of_flush (h : s.flush.1 = true) : s.flush.2.gathered = "" := by
  rw [flush_eq] at h ⊢
  split
  next hempty => exact hempty
  next hempty =>
    rw [if_neg hempty] at h
    split
    next => rfl
    next htakes =>
      rw [if_neg htakes] at h
      cases h

-- A text finds its place where there is room: a long one is delivered, another one gathers.
def place (t : String) (s : Started) : Bool × Started :=
  if t.utf8ByteSize ≥ gatheringSize then s.deliver t
  else (true, { s with gathered := s.gathered ++ t })

-- Make room for a text, by delivering what has gathered.
def makeRoom (t : String) (s : Started) : Bool × Started :=
  if s.gathered.utf8ByteSize + t.utf8ByteSize > gatheringSize then s.flush else (true, s)

theorem write_eq (t : String) (s : Started) : s.write t =
    if (s.makeRoom t).1 then (s.makeRoom t).2.place t else (false, (s.makeRoom t).2) := by
  simp only [write, makeRoom, place]
  split
  · rcases s.flush with ⟨_ | _, s'⟩ <;> rfl
  · rfl

-- A text that is too long to gather finds nothing that has gathered.
theorem makeRoom_spec (h : (s.makeRoom t).1 = true) :
    (s.makeRoom t).2.written = s.written ∧
      (t.utf8ByteSize ≥ gatheringSize → (s.makeRoom t).2.gathered = "") := by
  unfold makeRoom at h ⊢
  split
  next hfull =>
    rw [if_pos hfull] at h
    exact ⟨s.written_flush, fun _ => gathered_of_flush h⟩
  next hfull =>
    refine ⟨rfl, fun hlong => ?_⟩
    have hsize : s.gathered.utf8ByteSize = 0 := by omega
    exact String.utf8ByteSize_eq_zero_iff.mp hsize

theorem written_place (hgathered : t.utf8ByteSize ≥ gatheringSize → s.gathered = "")
    (h : (s.place t).1 = true) : (s.place t).2.written = s.written ++ t := by
  unfold place deliver at h ⊢
  split
  next hlong =>
    rw [if_pos hlong] at h
    split
    next => simp [written, hgathered hlong]
    next htakes =>
      rw [if_neg htakes] at h
      cases h
  next => simp [written, String.append_assoc]

-- What has been taken comes behind what was taken before.
theorem written_write (h : (s.write t).1 = true) : (s.write t).2.written = s.written ++ t := by
  rw [write_eq] at h ⊢
  cases hroom : (s.makeRoom t).1 with
  | false => simp [hroom] at h
  | true =>
    obtain ⟨hwritten, hgathered⟩ := makeRoom_spec hroom
    simp only [hroom, if_true] at h ⊢
    rw [written_place hgathered h, hwritten]

-- A program that echoes, with its streams open and its output not read yet.
structure Attentive (s : Started) : Prop where
  echoes : Echoes s.program
  intact : s.broken = false
  unheard : s.outputRead = false
  inputOpen : s.inputOpen = true
  outputOpen : s.outputOpen = true

namespace Attentive

-- It takes whatever it is given, as it leaves nothing on the way.
theorem takes (h : s.Attentive) (t : String) : s.takes t = true := by
  have hunread : (s.runWith (s.delivered ++ t) none).unread = 0 := by
    rw [runWith, h.echoes _ (by simp)]
  simp [Started.takes, isOver, h.intact, h.unheard, hunread]

theorem flush (h : s.Attentive) : s.flush.1 = true ∧ s.flush.2.Attentive := by
  rw [flush_eq, if_pos (h.takes _)]
  split
  · exact ⟨rfl, h⟩
  · exact ⟨rfl, h.echoes, h.intact, h.unheard, h.inputOpen, h.outputOpen⟩

theorem write (h : s.Attentive) (t : String) : (s.write t).1 = true ∧ (s.write t).2.Attentive := by
  have hroom : (s.makeRoom t).1 = true ∧ (s.makeRoom t).2.Attentive := by
    unfold makeRoom
    split
    · exact h.flush
    · exact ⟨rfl, h⟩
  obtain ⟨hdone, h⟩ := hroom
  rw [write_eq, if_pos hdone, place, deliver, if_pos (h.takes t)]
  split <;> exact ⟨rfl, h.echoes, h.intact, h.unheard, h.inputOpen, h.outputOpen⟩

-- It has been given all that was written when the input is closed, and answers that.
theorem rest_writeLast (h : s.Attentive) (t : String) :
    (s.writeLast t).1 = true ∧ (s.writeLast t).2.outputOpen = true ∧
      (s.writeLast t).2.rest = s.written ++ t := by
  obtain ⟨hwrite, hafter⟩ := h.write t
  obtain ⟨hflush, hend⟩ := hafter.flush
  have hgiven : (s.write t).2.flush.2.delivered = s.written ++ t := by
    have hwritten := (s.write t).2.written_flush
    rwa [written_write hwrite, written, gathered_of_flush hflush, String.append_empty] at hwritten
  refine ⟨by simp [writeLast, hwrite, hflush], hend.outputOpen, ?_⟩
  have hunheard := hend.unheard
  have hanswer := hend.echoes
    { input := s.written ++ t, diagnosticsByLine := (s.write t).2.flush.2.diagnosticsByLine }
    (by simp)
  simp only [writeLast, rest, result, runWith, hunheard, hgiven, hanswer, Bool.false_eq_true,
    if_false, Bytes.text?_ofText, Option.getD_some]

end Attentive

end Started

namespace SolverProcess

-- The process is a program that echoes, and has been given a text so far.
def HasWritten (p : SolverProcess) (text : String) : Prop :=
  ∃ s, p.started = some s ∧ s.Attentive ∧ s.written = text

theorem hasWritten_exec {installed : Installed} {p : SolverProcess} {program : Program}
    (hinstalled : installed p.settings.binary p.settings.args = some program)
    (hecho : Echoes program) : (p.exec installed).2.HasWritten "" := by
  rw [exec, hinstalled]
  exact ⟨_, rfl, ⟨hecho, rfl, rfl, rfl, rfl⟩, rfl⟩

theorem hasWritten_write {p : SolverProcess} {text : String} (h : p.HasWritten text) (t : String) :
    (p.write t).1 = .ok true ∧ (p.write t).2.HasWritten (text ++ t) := by
  obtain ⟨s, hs, hattentive, rfl⟩ := h
  obtain ⟨hwrite, hafter⟩ := hattentive.write t
  simp only [write, withStarted, hs, hattentive.inputOpen, if_true]
  exact ⟨congrArg _ hwrite, _, rfl, hafter, Started.written_write hwrite⟩

theorem hasWritten_foldl {p : SolverProcess} {text : String} (h : p.HasWritten text)
    (pieces : List String) :
    (pieces.foldl (fun q t => (q.write t).2) p).HasWritten (text ++ String.join pieces) := by
  induction pieces generalizing p text with
  | nil => simpa using h
  | cons t pieces ih =>
    have hrest := ih (hasWritten_write h t).2
    simpa [String.append_assoc] using hrest

-- What is written piece by piece comes back as one text, however long the pieces are.
theorem read_of_echoes {installed : Installed} {p : SolverProcess} {program : Program}
    (hinstalled : installed p.settings.binary p.settings.args = some program)
    (hecho : Echoes program) (pieces : List String) (last : String) :
    let q := pieces.foldl (fun q t => (q.write t).2) (p.exec installed).2
    (q.writeLast last).1 = .ok true ∧
      (q.writeLast last).2.read.1 = .ok (String.join pieces ++ last) := by
  obtain ⟨s, hs, hattentive, hwritten⟩ :=
    hasWritten_foldl (hasWritten_exec hinstalled hecho) pieces
  obtain ⟨hwrite, hopen, hrest⟩ := hattentive.rest_writeLast last
  rw [hwritten, String.empty_append] at hrest
  simp [writeLast, read, withStarted, hs, hattentive.inputOpen, hopen, hwrite, hrest]

end SolverProcess

end Rulebook
