import Rulebook.Proofs.Reasoner.Run
import Rulebook.Reasoner.Shared

namespace Rulebook

-- Whether a run that ends now counts.
def Call.verdict (c : Call) : Bool :=
  !c.limit.isSome || c.ticket.finish.1

namespace Shared

section Calls

variable {β : Type} {s : Shared β} {i j : Nat} {c c' : Call}

@[simp] theorem calls_withCall_self : (s.withCall i c).calls i = some c :=
  if_pos rfl

theorem calls_withCall_of_ne (h : j ≠ i) : (s.withCall i c).calls j = s.calls j :=
  if_neg h

-- A call is the one that was put in place, or it was there.
theorem calls_withCall_cases (h : (s.withCall i c).calls j = some c') :
    j = i ∧ c' = c ∨ j ≠ i ∧ s.calls j = some c' := by
  by_cases hij : j = i
  · subst hij
    exact .inl ⟨rfl, Option.some.inj (h.symm.trans calls_withCall_self)⟩
  · exact .inr ⟨hij, (calls_withCall_of_ne hij).symm.trans h⟩

end Calls

variable {β : Type} [Backend β] {drift : β → β → Prop} {s s' s'' : Shared β}

theorem Interleaving.trans {turns turns' : List (Turn × Shared β)}
    (h : Interleaving drift s turns s') (h' : Interleaving drift s' turns' s'') :
    Interleaving drift s (turns' ++ turns) s'' := by
  induction h' with
  | start => exact h
  | turn _ hs ih => exact ih.turn hs

-- There are turns after which something holds.
def Leads (drift : β → β → Prop) (s : Shared β) (P : Shared β → Prop) : Prop :=
  ∃ turns s', Interleaving drift s turns s' ∧ P s'

namespace Leads

variable {P Q : Shared β → Prop}

theorem bind (h : Leads drift s P) (hQ : ∀ {s'}, P s' → Leads drift s' Q) : Leads drift s Q := by
  obtain ⟨turns, s', h, hP⟩ := h
  obtain ⟨turns', s'', h', hQ⟩ := hQ hP
  exact ⟨turns' ++ turns, s'', h.trans h', hQ⟩

theorem single {t : Turn} (hs : Step drift s t s') (h : P s') : Leads drift s P :=
  ⟨[(t, s')], s', .turn .start hs, h⟩

end Leads

-- A call has the reasoner for itself, and if it is supervised the reasoner has its ticket.
structure Held (w : Workspace β) (i : Nat) (c : Call) (s : Shared β) : Prop where
  workspace : s.workspace = w
  call : s.calls i = some c
  supervision : s.supervision = if c.limit.isSome then some i else none

-- A call has let go of the reasoner.
structure Released (w : Workspace β) (i : Nat) (c : Call) (s : Shared β) : Prop where
  workspace : s.workspace = w
  call : s.calls i = some c
  holder : s.holder = none
  supervision : s.supervision = none

variable {w : Workspace β} {i : Nat} {c : Call}

theorem leads_entered (hnew : s.calls i = none) (hfree : s.holder = none)
    (hnone : s.supervision = none) (limit : Option Nat) :
    Leads drift s (Held s.workspace i { limit := limit, worker := .inside .entered }) := by
  have hcalled : Leads drift s fun s' => s' = s.withCall i { limit := limit } :=
    .single (.called hnew) rfl
  refine hcalled.bind ?_
  rintro _ rfl
  exact .single (.locked calls_withCall_self rfl hfree)
    ⟨rfl, calls_withCall_self, by simp [withCall, hnone]⟩

namespace Held

theorem refused (h : Held w i c s) (hw : c.worker = .inside .entered) {e : ReasonerError}
    {r : Reasoner β} (hp : w.reasoner.prepare w.kb = (.error e, r)) :
    Leads drift s (Held ⟨w.kb, r⟩ i { c with worker := .inside (.ended (.error e)) }) := by
  obtain ⟨rfl, hc, hs⟩ := h
  exact .single (.refused hc hw hp) ⟨rfl, calls_withCall_self, hs⟩

theorem prepared (h : Held w i c s) (hw : c.worker = .inside .entered) {r : Reasoner β}
    (hp : w.reasoner.prepare w.kb = (.ok (), r)) :
    Leads drift s (Held ⟨w.kb, r⟩ i { c with worker := .inside .running }) := by
  obtain ⟨rfl, hc, hs⟩ := h
  exact .single (.prepared hc hw hp) ⟨rfl, calls_withCall_self, hs⟩

theorem returned (h : Held w i c s) (hw : c.worker = .inside .running)
    {outcome : Except BackendError Bool} {r : Reasoner β}
    (hrun : w.reasoner.launch = (outcome, r)) :
    Leads drift s (Held ⟨w.kb, r⟩ i { c with worker := .inside (.ofOutcome outcome) }) := by
  obtain ⟨rfl, hc, hs⟩ := h
  exact .single (.returned hc hw hrun) ⟨rfl, calls_withCall_self, hs⟩

-- The ticket is asked, if there is one, and what it says is taken down.
theorem finished (h : Held w i c s) (hw : c.worker = .inside .running) {completed : Bool}
    {r : Reasoner β} (hrun : w.reasoner.launch = (.ok completed, r)) :
    Leads drift s fun s' => ∃ ticket,
      Held ⟨w.kb, r.record (completed && c.verdict)⟩ i
        { c with
          ticket := ticket
          worker := .inside (.ended (.ok (completed && c.verdict))) } s' := by
  have hasked : Leads drift s fun s' => ∃ ticket,
      Held ⟨w.kb, r⟩ i
        { c with ticket := ticket, worker := .inside (.settled completed c.verdict) } s' := by
    refine (h.returned hw hrun).bind ?_
    rintro s' ⟨hworkspace, hc, hs⟩
    by_cases hlimit : c.limit.isSome
    · simp only [hlimit, if_true] at hs
      refine .single (.finished hs hc calls_withCall_self rfl)
        ⟨c.ticket.finish.2, hworkspace, ?_, ?_⟩
      · simp [Call.verdict, hlimit]
      · simpa [withCall, hlimit] using hs
    · simp only [hlimit, Bool.false_eq_true, if_false] at hs
      refine .single (.unsupervised hs hc rfl) ⟨c.ticket, hworkspace, ?_, ?_⟩
      · simp [Call.verdict, hlimit]
      · simpa [withCall, hlimit] using hs
  refine hasked.bind ?_
  rintro s' ⟨ticket, hworkspace, hc, hs⟩
  refine .single (.recorded hc rfl) ⟨ticket, ?_, calls_withCall_self, hs⟩
  simp [withReasoner, withCall, hworkspace]

-- The time is over before the ticket is asked.
theorem expired (h : Held w i c s) {limit : Nat} (hlimit : c.limit = some limit)
    (hticket : c.ticket = .running) (hs : c.supervisor = .listening) {stage : Stage}
    (hw : c.worker = .inside stage) :
    Leads drift s (Held w i
      { c with
        ticket := .abandoned
        supervisor := .answered (.error (.supervision limit)) }) := by
  obtain ⟨rfl, hc, hsupervision⟩ := h
  have hover : Leads drift s fun s' => s' = s.withCall i { c with supervisor := .overdue } :=
    .single (.timedOut hc hlimit hs (by simp [hw])) rfl
  refine hover.bind ?_
  rintro _ rfl
  refine .single (.abandoned calls_withCall_self hlimit rfl) ⟨rfl, ?_, hsupervision⟩
  rw [calls_withCall_self]
  simp [hticket, Ticket.abandon]

theorem released (h : Held w i c s) {result : Except ReasonerError Bool}
    (hw : c.worker = .inside (.ended result)) :
    Leads drift s (Released w i { c with worker := .sent result }) := by
  obtain ⟨rfl, hc, hs⟩ := h
  have hleft : Leads drift s (Released s.workspace i { c with worker := .left result }) := by
    refine .single (.left hc hw) ⟨rfl, calls_withCall_self, rfl, ?_⟩
    simp only [hs]
    split <;> rfl
  refine hleft.bind fun {s'} h => ?_
  exact .single (.sent h.call rfl) ⟨h.workspace, calls_withCall_self, h.holder, h.supervision⟩

end Held

-- A call that has its answer, and has let go of the reasoner.
def Answers (w : Workspace β) (i : Nat) (result : Except ReasonerError Bool) (s : Shared β) :
    Prop :=
  ∃ c, Released w i c s ∧ c.supervisor = .answered result

namespace Held

-- The result is waited for.
theorem answers (h : Held w i c s) {result : Except ReasonerError Bool}
    (hw : c.worker = .inside (.ended result)) (hs : c.supervisor = .listening) :
    Leads drift s (Answers w i result) := by
  refine (h.released hw).bind fun {s'} h => ?_
  exact .single (.received h.call rfl (.inl hs))
    ⟨_, ⟨h.workspace, calls_withCall_self, h.holder, h.supervision⟩, rfl⟩

-- The supervisor has an answer already.
theorem answers_early (h : Held w i c s) {result result' : Except ReasonerError Bool}
    (hw : c.worker = .inside (.ended result')) (hs : c.supervisor = .answered result) :
    Leads drift s (Answers w i result) :=
  (h.released hw).bind fun h => ⟨[], _, .start, _, h, hs⟩

end Held

-- Reasoning without supervision is a call that nothing comes between.
theorem leads_reason (hnew : s.calls i = none) (hfree : s.holder = none)
    (hnone : s.supervision = none) :
    Leads drift s (Answers (s.workspace.perform .reason).2 i
      (s.workspace.reasoner.reason s.workspace.kb).1) := by
  refine (leads_entered hnew hfree hnone none).bind fun h => ?_
  simp only [Workspace.perform, Workspace.act]
  rcases hp : s.workspace.reasoner.prepare s.workspace.kb with ⟨e | _, r⟩
  · have hreason : s.workspace.reasoner.reason s.workspace.kb = (.error e, r) := by
      simp [Reasoner.reason, hp]
    rw [hreason]
    exact (h.refused rfl hp).bind fun h => h.answers rfl rfl
  · refine (h.prepared rfl hp).bind fun h => ?_
    rcases hl : r.launch with ⟨e | completed, r'⟩
    · have hreason : s.workspace.reasoner.reason s.workspace.kb = (.error (.ofBackend e), r') := by
        simp [Reasoner.reason, hp, hl]
      rw [hreason]
      exact (h.returned rfl hl).bind fun h => h.answers rfl rfl
    · have hreason : s.workspace.reasoner.reason s.workspace.kb =
          (.ok completed, r'.record completed) := by
        simp [Reasoner.reason, hp, hl]
      rw [hreason]
      refine (h.finished rfl hl).bind ?_
      rintro _ ⟨ticket, h⟩
      simpa [Call.verdict] using h.answers rfl rfl

-- So is supervised reasoning, at either pace: the supervisor gives up before the run has ended, or
-- it does not.
theorem leads_supervise (hnew : s.calls i = none) (hfree : s.holder = none)
    (hnone : s.supervision = none) (limit : Nat) (pace : Pace) :
    Leads drift s (Answers (s.workspace.perform (.supervise limit pace)).2 i
      (s.workspace.reasoner.superviseReason s.workspace.kb limit pace).1) := by
  refine (leads_entered hnew hfree hnone (some limit)).bind fun h => ?_
  simp only [Workspace.perform, Workspace.act]
  rcases hp : s.workspace.reasoner.prepare s.workspace.kb with ⟨e | _, r⟩
  · have hreason : s.workspace.reasoner.superviseReason s.workspace.kb limit pace =
        (.error e, r) := by
      simp [Reasoner.superviseReason, hp]
    rw [hreason]
    exact (h.refused rfl hp).bind fun h => h.answers rfl rfl
  · refine (h.prepared rfl hp).bind fun h => ?_
    rcases hl : r.launch with ⟨outcome, r'⟩
    cases pace with
    | withinLimit =>
      cases outcome with
      | error e =>
        have hreason : s.workspace.reasoner.superviseReason s.workspace.kb limit .withinLimit =
            (.error (.ofBackend e), r') := by
          simp [Reasoner.superviseReason, hp, hl]
        rw [hreason]
        exact (h.returned rfl hl).bind fun h => h.answers rfl rfl
      | ok completed =>
        have hreason : s.workspace.reasoner.superviseReason s.workspace.kb limit .withinLimit =
            (.ok completed, r'.record completed) := by
          simp [Reasoner.superviseReason, hp, hl, Reasoner.settle, Pace.ticketAtEnd, Ticket.finish,
            Reasoner.record]
        rw [hreason]
        refine (h.finished rfl hl).bind ?_
        rintro _ ⟨ticket, h⟩
        simpa [Call.verdict, Ticket.finish] using h.answers rfl rfl
    | late =>
      refine (h.expired rfl rfl rfl rfl).bind fun h => ?_
      cases outcome with
      | error e =>
        have hreason : s.workspace.reasoner.superviseReason s.workspace.kb limit .late =
            (.error (.supervision limit), r') := by
          simp [Reasoner.superviseReason, hp, hl]
        rw [hreason]
        exact (h.returned rfl hl).bind fun h => h.answers_early rfl rfl
      | ok completed =>
        have hreason : s.workspace.reasoner.superviseReason s.workspace.kb limit .late =
            (.error (.supervision limit), r'.record false) := by
          simp [Reasoner.superviseReason, hp, hl, Reasoner.settle, Pace.ticketAtEnd, Ticket.finish,
            Ticket.abandon]
        rw [hreason]
        refine (h.finished rfl hl).bind ?_
        rintro _ ⟨ticket, h⟩
        simpa [Call.verdict, Ticket.finish] using h.answers_early rfl rfl

end Shared

end Rulebook
