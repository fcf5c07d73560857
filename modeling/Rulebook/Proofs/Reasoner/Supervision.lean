import Rulebook.Proofs.Reasoner.Refusal
import Rulebook.Proofs.Reasoner.Schedule

namespace Rulebook

namespace Turn

-- The call that a turn is about.
def Concerns (i : Nat) : Turn → Prop
  | called j _ | locked j | refused j _ | prepared j | returned j _ | finished j _ | unsupervised j
  | recorded j _ _ | left j | sent j | received j | timedOut j | abandoned j _ => j = i
  | performed _ | drifted => False

-- The ticket of a call is settled.
def settles (i : Nat) : Turn → Bool
  | finished j success | abandoned j success => success && j = i
  | _ => false

-- The run of a call is over: it is taken down, or it has failed.
def endsRun (i : Nat) : Turn → Bool
  | recorded j _ _ | returned j (.error _) => j = i
  | _ => false

theorem quiet_of_not_concerns {i : Nat} {t : Turn} (h : ¬t.Concerns i) :
    t.settles i = false ∧ t.endsRun i = false := by
  cases t with
  | returned j outcome =>
    cases outcome with
    | ok => exact ⟨rfl, rfl⟩
    | error e => exact ⟨rfl, decide_eq_false h⟩
  | finished j success | abandoned j success =>
    exact ⟨by simp [settles, show ¬j = i from h], rfl⟩
  | recorded j => exact ⟨rfl, decide_eq_false h⟩
  | _ => exact ⟨rfl, rfl⟩

end Turn

-- The turns of one call, as it goes through them itself. Other calls and their tickets play no
-- part.
inductive Progress (i : Nat) : Turn → Option Call → Option Call → Prop
  | apart {t : Turn} {call : Option Call} (h : ¬t.Concerns i) : Progress i t call call
  | called {limit : Option Nat} : Progress i (.called i limit) none (some { limit := limit })
  | locked {c : Call} (hw : c.worker = .waiting) :
      Progress i (.locked i) (some c) (some { c with worker := .inside .entered })
  | refused {c : Call} {e : ReasonerError} (hw : c.worker = .inside .entered)
      (he : ∀ limit, e ≠ .supervision limit) :
      Progress i (.refused i e) (some c) (some { c with worker := .inside (.ended (.error e)) })
  | prepared {c : Call} (hw : c.worker = .inside .entered) :
      Progress i (.prepared i) (some c) (some { c with worker := .inside .running })
  | returned {c : Call} {outcome : Except BackendError Bool} (hw : c.worker = .inside .running) :
      Progress i (.returned i outcome) (some c)
        (some { c with worker := .inside (.ofOutcome outcome) })
  | finished {c : Call} {reported : Bool} (hlimit : c.limit.isSome)
      (hw : c.worker = .inside (.returned reported)) :
      Progress i (.finished i c.ticket.finish.1) (some c)
        (some { c with
          ticket := c.ticket.finish.2
          worker := .inside (.settled reported c.ticket.finish.1) })
  | unsupervised {c : Call} {reported : Bool} (hlimit : c.limit = none)
      (hw : c.worker = .inside (.returned reported)) :
      Progress i (.unsupervised i) (some c)
        (some { c with worker := .inside (.settled reported true) })
  | recorded {c : Call} {reported counts : Bool}
      (hw : c.worker = .inside (.settled reported counts)) :
      Progress i (.recorded i reported counts) (some c)
        (some { c with worker := .inside (.ended (.ok (reported && counts))) })
  | left {c : Call} {result : Except ReasonerError Bool} (hw : c.worker = .inside (.ended result)) :
      Progress i (.left i) (some c) (some { c with worker := .left result })
  | sent {c : Call} {result : Except ReasonerError Bool} (hw : c.worker = .left result) :
      Progress i (.sent i) (some c) (some { c with worker := .sent result })
  | received {c : Call} {result : Except ReasonerError Bool} (hw : c.worker = .sent result) :
      Progress i (.received i) (some c) (some { c with supervisor := .answered result })
  | timedOut {c : Call} :
      Progress i (.timedOut i) (some c) (some { c with supervisor := .overdue })
  | abandoned {c : Call} {limit : Nat} (hlimit : c.limit = some limit) :
      Progress i (.abandoned i c.ticket.abandon.1) (some c)
        (some { c with
          ticket := c.ticket.abandon.2
          supervisor :=
            if c.ticket.abandon.1 then .answered (.error (.supervision limit)) else .patient })

-- The result that a worker has.
def Worker.result? : Worker → Option (Except ReasonerError Bool)
  | inside (.ended result) | left result | sent result => some result
  | _ => none

-- It is not settled yet whether the run counts.
def Worker.Unsettled : Worker → Prop
  | waiting | inside .entered | inside .running | inside (.returned _) => True
  | _ => False

-- Whether a run counts, as the ticket has it. Without supervision it always does.
def Call.Counts (c : Call) : Bool → Prop
  | true => c.limit = none ∨ c.ticket = .finished
  | false => c.limit ≠ none ∧ c.ticket = .abandoned

-- Where a result comes from: a run that was taken down, or an error other than running out of time.
def Earned (i : Nat) (turns : List Turn) : Except ReasonerError Bool → Prop
  | .ok completed => ∃ reported counts, .recorded i reported counts ∈ turns ∧
      completed = (reported && counts)
  | .error e => ∀ limit, e ≠ .supervision limit

theorem Earned.cons {i : Nat} {t : Turn} {turns : List Turn}
    {result : Except ReasonerError Bool} (h : Earned i turns result) :
    Earned i (t :: turns) result := by
  cases result with
  | ok completed =>
    obtain ⟨reported, counts, hmem, heq⟩ := h
    exact ⟨reported, counts, List.mem_cons_of_mem _ hmem, heq⟩
  | error e => exact h

-- What the turns so far say of a call that has been made.
structure Ledger (i : Nat) (turns : List Turn) (c : Call) : Prop where
  settles : turns.countP (Turn.settles i) = if c.ticket = .running then 0 else 1
  abandoned : .abandoned i true ∈ turns ↔ c.ticket = .abandoned
  alone : c.limit = none → c.ticket = .running
  unsettled : c.worker.Unsettled → c.ticket ≠ .finished
  ends : turns.countP (Turn.endsRun i) ≤ 1
  unended : c.worker.result? = none → turns.countP (Turn.endsRun i) = 0
  returned : ∀ {reported}, c.worker = .inside (.returned reported) →
    .returned i (.ok reported) ∈ turns
  settled : ∀ {reported counts}, c.worker = .inside (.settled reported counts) →
    .returned i (.ok reported) ∈ turns ∧ c.Counts counts
  recorded : ∀ {reported counts}, .recorded i reported counts ∈ turns →
    .returned i (.ok reported) ∈ turns ∧ c.Counts counts
  result : ∀ {result}, c.worker.result? = some result → Earned i turns result
  answered : ∀ {result}, c.supervisor = .answered result →
    Earned i turns result ∨ (∃ limit, result = .error (.supervision limit)) ∧ c.ticket = .abandoned

namespace Ledger

variable {i : Nat} {turns : List Turn} {t : Turn} {c : Call}

-- Before the end of a run nothing of it is taken down.
theorem not_recorded (h : Ledger i turns c) (hr : c.worker.result? = none)
    {reported counts : Bool} :
    .recorded i reported counts ∉ turns := by
  intro hmem
  have hpos : 0 < turns.countP (Turn.endsRun i) :=
    List.countP_pos_iff.mpr ⟨_, hmem, by simp [Turn.endsRun]⟩
  have hzero := h.unended hr
  omega

theorem quiet (h : Ledger i turns c) (hsettles : t.settles i = false)
    (hends : t.endsRun i = false) : Ledger i (t :: turns) c where
  settles := by simpa [hsettles] using h.settles
  abandoned := by
    have hne : .abandoned i true ≠ t := by
      rintro rfl
      simp [Turn.settles] at hsettles
    simpa [hne] using h.abandoned
  alone := h.alone
  unsettled := h.unsettled
  ends := by simpa [hends] using h.ends
  unended hr := by simpa [hends] using h.unended hr
  returned hw := List.mem_cons_of_mem _ (h.returned hw)
  settled hw := ⟨List.mem_cons_of_mem _ (h.settled hw).1, (h.settled hw).2⟩
  recorded {reported counts} hmem := by
    have hne : .recorded i reported counts ≠ t := by
      rintro rfl
      simp [Turn.endsRun] at hends
    have hmem := (List.mem_cons.mp hmem).resolve_left hne
    exact ⟨List.mem_cons_of_mem _ (h.recorded hmem).1, (h.recorded hmem).2⟩
  result hr := (h.result hr).cons
  answered hs := (h.answered hs).imp_left Earned.cons

-- The worker goes on, and its ticket is not asked.
theorem advance (h : Ledger i turns c) {w : Worker} (hunsettled : w.Unsettled → c.worker.Unsettled)
    (hunended : w.result? = none → c.worker.result? = none)
    (hreturned : ∀ {reported}, w = .inside (.returned reported) →
      .returned i (.ok reported) ∈ turns)
    (hsettled : ∀ {reported counts}, w = .inside (.settled reported counts) →
      .returned i (.ok reported) ∈ turns ∧ c.Counts counts)
    (hresult : ∀ {result}, w.result? = some result → Earned i turns result) :
    Ledger i turns { c with worker := w } :=
  { h with
    unsettled := fun hw => h.unsettled (hunsettled hw)
    unended := fun hr => h.unended (hunended hr)
    returned := hreturned
    settled := hsettled
    result := hresult }

-- A run ends.
theorem ended (h : Ledger i turns c) {result : Except ReasonerError Bool}
    (hr : c.worker.result? = none) (hsettles : t.settles i = false)
    (hrecorded : ∀ {reported counts}, .recorded i reported counts = t →
      .returned i (.ok reported) ∈ turns ∧ c.Counts counts)
    (hresult : Earned i (t :: turns) result) :
    Ledger i (t :: turns) { c with worker := .inside (.ended result) } where
  settles := by simpa [hsettles] using h.settles
  abandoned := by
    have hne : .abandoned i true ≠ t := by
      rintro rfl
      simp [Turn.settles] at hsettles
    simpa [hne] using h.abandoned
  alone := h.alone
  unsettled := False.elim
  ends := by
    have hzero := h.unended hr
    rw [List.countP_cons]
    split <;> omega
  unended := nofun
  returned := nofun
  settled := nofun
  recorded hmem := by
    rcases List.mem_cons.mp hmem with ht | hmem
    · exact ⟨List.mem_cons_of_mem _ (hrecorded ht).1, (hrecorded ht).2⟩
    · exact ⟨List.mem_cons_of_mem _ (h.recorded hmem).1, (h.recorded hmem).2⟩
  result hr := by
    obtain rfl := Option.some.inj hr
    exact hresult
  answered hs := (h.answered hs).imp_left Earned.cons

-- The worker asks the ticket. It can only have been abandoned so far.
theorem finish (h : Ledger i turns c) (hlimit : c.limit ≠ none) {reported : Bool}
    (hw : c.worker = .inside (.returned reported)) :
    Ledger i (.finished i c.ticket.finish.1 :: turns)
      { c with
        ticket := c.ticket.finish.2
        worker := .inside (.settled reported c.ticket.finish.1) } := by
  have hr : c.worker.result? = none := by rw [hw]; rfl
  have hreturned := h.returned hw
  cases ht : c.ticket with
  | running =>
    have hquiet : Turn.endsRun i (.finished i true) = false := rfl
    refine
      { settles := ?_, abandoned := ?_, alone := fun hn => absurd hn hlimit
        unsettled := False.elim, ends := by simpa [Ticket.finish, hquiet] using h.ends
        unended := fun _ => by simpa [Ticket.finish, hquiet] using h.unended hr
        returned := by rintro _ ⟨⟩, settled := ?_, recorded := ?_
        result := by rintro _ ⟨⟩, answered := ?_ }
    · have hzero : turns.countP (Turn.settles i) = 0 := by rw [h.settles, ht, if_pos rfl]
      simp [Ticket.finish, Turn.settles, hzero]
    · have hmem : .abandoned i true ∉ turns := by
        rw [h.abandoned, ht]
        rintro ⟨⟩
      simpa [Ticket.finish] using hmem
    · rintro _ _ ⟨⟩
      exact ⟨List.mem_cons_of_mem _ hreturned, .inr rfl⟩
    · intro reported counts hmem
      rcases List.mem_cons.mp hmem with hother | hmem
      · cases hother
      · exact absurd hmem (h.not_recorded hr)
    · intro result hs
      rcases h.answered hs with hearned | ⟨-, habandoned⟩
      · exact .inl hearned.cons
      · simp [ht] at habandoned
  | finished => exact absurd ht (h.unsettled (by rw [hw]; trivial))
  | abandoned =>
    have h := h.quiet (t := .finished i false) rfl rfl
    have hc : c = { c with ticket := .abandoned } := by rw [← ht]
    rw [hc] at h
    refine h.advance False.elim (fun _ => hr) (by rintro _ ⟨⟩) ?_ (by rintro _ ⟨⟩)
    rintro _ _ ⟨⟩
    exact ⟨List.mem_cons_of_mem _ hreturned, hlimit, rfl⟩

-- The supervisor asks the ticket.
theorem abandon (h : Ledger i turns c) {limit : Nat} (hlimit : c.limit = some limit) :
    Ledger i (.abandoned i c.ticket.abandon.1 :: turns)
      { c with
        ticket := c.ticket.abandon.2
        supervisor :=
          if c.ticket.abandon.1 then .answered (.error (.supervision limit)) else .patient } := by
  have hsupervised : c.limit ≠ none := by simp [hlimit]
  cases ht : c.ticket with
  | running =>
    have hcounts {counts : Bool} : ¬c.Counts counts := by
      cases counts <;> simp [Call.Counts, ht, hlimit]
    have hquiet : Turn.endsRun i (.abandoned i true) = false := rfl
    refine
      { settles := ?_, abandoned := by simp [Ticket.abandon]
        alone := fun hn => absurd hn hsupervised, unsettled := by rintro - ⟨⟩
        ends := by simpa [Ticket.abandon, hquiet] using h.ends
        unended := fun hr => by simpa [Ticket.abandon, hquiet] using h.unended hr
        returned := fun hw => List.mem_cons_of_mem _ (h.returned hw)
        settled := fun hw => absurd (h.settled hw).2 hcounts
        recorded := ?_, result := fun hr => (h.result hr).cons, answered := ?_ }
    · have hzero : turns.countP (Turn.settles i) = 0 := by rw [h.settles, ht, if_pos rfl]
      simp [Ticket.abandon, Turn.settles, hzero]
    · intro reported counts hmem
      rcases List.mem_cons.mp hmem with hother | hmem
      · cases hother
      · exact absurd (h.recorded hmem).2 hcounts
    · rintro result ⟨⟩
      exact .inr ⟨⟨limit, rfl⟩, rfl⟩
  | finished =>
    have h := h.quiet (t := .abandoned i false) rfl rfl
    have hc : c = { c with ticket := .finished } := by rw [← ht]
    rw [hc] at h
    exact { h with answered := by rintro _ ⟨⟩ }
  | abandoned =>
    have h := h.quiet (t := .abandoned i false) rfl rfl
    have hc : c = { c with ticket := .abandoned } := by rw [← ht]
    rw [hc] at h
    exact { h with answered := by rintro _ ⟨⟩ }

-- Whether a run counts is a matter of its own ticket.
theorem counts_eq_false_iff (h : Ledger i turns c) {reported counts : Bool}
    (hmem : .recorded i reported counts ∈ turns) : counts = false ↔ c.ticket = .abandoned := by
  have hcounts := (h.recorded hmem).2
  cases counts with
  | false => exact iff_of_true rfl hcounts.2
  | true =>
    refine iff_of_false nofun fun habandoned => ?_
    rcases hcounts with hlimit | hfinished
    · simp [h.alone hlimit] at habandoned
    · simp [hfinished] at habandoned

theorem abandoned_of_answered (h : Ledger i turns c) {limit : Nat}
    (hs : c.supervisor = .answered (.error (.supervision limit))) : c.ticket = .abandoned := by
  rcases h.answered hs with hearned | ⟨-, habandoned⟩
  · exact absurd rfl (hearned limit)
  · exact habandoned

theorem earned_of_ok (h : Ledger i turns c) {completed : Bool}
    (hs : c.supervisor = .answered (.ok completed) ∨ c.worker.result? = some (.ok completed)) :
    Earned i turns (.ok completed) := by
  rcases hs with hs | hr
  · rcases h.answered hs with hearned | ⟨⟨limit, hlimit⟩, -⟩
    · exact hearned
    · cases hlimit
  · exact h.result hr

-- A call that has just been made.
theorem called {limit : Option Nat} (h : ∀ t ∈ turns, ¬t.Concerns i) :
    Ledger i (.called i limit :: turns) { limit := limit } := by
  have hsettles : turns.countP (Turn.settles i) = 0 :=
    List.countP_eq_zero.mpr fun t ht => by simp [(Turn.quiet_of_not_concerns (h t ht)).1]
  have hends : turns.countP (Turn.endsRun i) = 0 :=
    List.countP_eq_zero.mpr fun t ht => by simp [(Turn.quiet_of_not_concerns (h t ht)).2]
  have hquiet :
      Turn.settles i (.called i limit) = false ∧ Turn.endsRun i (.called i limit) = false :=
    ⟨rfl, rfl⟩
  refine
    { settles := by simp [hquiet, hsettles], abandoned := ?_, alone := fun _ => rfl
      unsettled := fun _ => nofun, ends := by simp [hquiet, hends]
      unended := fun _ => by simp [hquiet, hends], returned := nofun, settled := nofun
      recorded := ?_, result := nofun, answered := nofun }
  · refine iff_of_false (fun hmem => ?_) nofun
    exact h _ ((List.mem_cons.mp hmem).resolve_left nofun) rfl
  · intro reported counts hmem
    exact absurd rfl (h _ ((List.mem_cons.mp hmem).resolve_left nofun))

end Ledger

-- What the turns so far say of a call, be it made or not.
def Accounted (i : Nat) (turns : List Turn) : Option Call → Prop
  | none => ∀ t ∈ turns, ¬t.Concerns i
  | some c => Ledger i turns c

-- One turn of a call.
theorem Accounted.step {i : Nat} {turns : List Turn} {t : Turn} {call call' : Option Call}
    (h : Accounted i turns call) (hp : Progress i t call call') :
    Accounted i (t :: turns) call' := by
  cases hp with
  | apart ht =>
    cases call with
    | none => exact List.forall_mem_cons.mpr ⟨ht, h⟩
    | some c =>
      obtain ⟨hsettles, hends⟩ := Turn.quiet_of_not_concerns ht
      exact Ledger.quiet h hsettles hends
  | called => exact .called h
  | @locked c hw | @prepared c hw =>
    have h : Ledger i _ c := h
    exact (h.quiet rfl rfl).advance (by simp [hw, Worker.Unsettled]) (by simp [hw, Worker.result?])
      nofun nofun nofun
  | @refused c e hw he =>
    have h : Ledger i _ c := h
    refine (h.quiet rfl rfl).advance False.elim nofun nofun nofun ?_
    rintro _ ⟨⟩
    exact he
  | @returned c outcome hw =>
    have h : Ledger i _ c := h
    cases outcome with
    | ok reported =>
      refine (h.quiet rfl rfl).advance (by simp [hw, Worker.Unsettled])
        (by simp [hw, Worker.result?]) ?_ nofun nofun
      rintro _ ⟨⟩
      exact List.mem_cons_self
    | error e =>
      refine h.ended (by rw [hw]; rfl) rfl nofun fun limit he => ?_
      have hengine := ReasonerError.ofEngine_ofBackend e
      rw [he] at hengine
      exact hengine
  | @finished c reported hlimit hw =>
    exact Ledger.finish h (Option.isSome_iff_ne_none.mp hlimit) hw
  | @unsupervised c reported hlimit hw =>
    have h : Ledger i _ c := h
    refine (h.quiet rfl rfl).advance False.elim (by simp [hw, Worker.result?]) nofun ?_ nofun
    rintro _ _ ⟨⟩
    exact ⟨List.mem_cons_of_mem _ (h.returned hw), .inl hlimit⟩
  | @recorded c reported counts hw =>
    have h : Ledger i _ c := h
    refine h.ended (by rw [hw]; rfl) rfl ?_ ⟨reported, counts, List.mem_cons_self, rfl⟩
    rintro _ _ ⟨⟩
    exact h.settled hw
  | @left c result hw | @sent c result hw =>
    have h : Ledger i _ c := h
    have hearned := h.result (by rw [hw]; rfl)
    refine (h.quiet rfl rfl).advance False.elim nofun nofun nofun ?_
    rintro _ ⟨⟩
    exact hearned.cons
  | @received c result hw =>
    have h : Ledger i _ c := h
    have hearned := h.result (by rw [hw]; rfl)
    refine { h.quiet rfl rfl with answered := ?_ }
    rintro _ ⟨⟩
    exact .inl hearned.cons
  | @timedOut c =>
    have h : Ledger i _ c := h
    exact { h.quiet rfl rfl with answered := nofun }
  | abandoned hlimit => exact Ledger.abandon h hlimit

-- A load that fails does not blame a supervisor.
theorem Reasoner.prepare_ne_supervision {β : Type} [Backend β] {kb : KnowledgeBase}
    {r : Reasoner β} {e : ReasonerError} (h : (r.prepare kb).1 = .error e) (limit : Nat) :
    e ≠ .supervision limit := by
  rintro rfl
  by_cases hs : r.state = .afterClosing
  · rw [prepare_of_closed kb hs] at h
    cases h
  · exact ofEngine_of_prepare hs h

-- Nothing is derived yet where something has just been loaded, and this is taken down.
def Workspace.Fresh {β : Type} (w : Workspace β) : Prop :=
  w.reasoner.state = .afterLoading →
    w.reasoner.completed = false ∧ w.reasoner.materialisation = .incomplete

namespace Workspace.Fresh

variable {β : Type} {w w' : Workspace β}

theorem of_ne (h : w.reasoner.state ≠ .afterLoading) : w.Fresh :=
  fun hs => absurd hs h

theorem markChanged {kb : KnowledgeBase} {r : Reasoner β} (h : Fresh ⟨kb, r⟩) :
    Fresh ⟨kb, r.markChanged⟩ := by
  rcases r.state_markChanged with ⟨-, hs⟩ | ⟨-, hr⟩
  · exact of_ne (by simp [hs])
  · rwa [hr]

variable [Backend β] {drift : β → β → Prop}

-- One move of a workspace.
theorem move {e : List Event} (h : w.Fresh) (hm : Move drift e w w') : w'.Fresh := by
  cases hm with
  | edit _ => exact h
  | drift _ => exact h
  | observe =>
    unfold Reasoner.observe
    split
    · exact h.markChanged
    · exact h
  | notify => exact h.markChanged
  | unload _ => exact of_ne nofun
  | @close kb r _ => exact of_ne (by simp [r.state_close])
  | @load kb r hs =>
    have hl := r.loading_loadFresh kb
    generalize r.loadFresh kb = result at hl ⊢
    cases hl with
    | loaded _ _ _ => exact fun _ => ⟨rfl, rfl⟩
    | unusableSource _ => exact of_ne (by simp [hs])
    | notActivated _ _ => exact of_ne (by simp [hs])
    | notPopulated _ _ _ => exact of_ne (by simp [hs])
  | @run kb r counts hs =>
    have hrunning := r.running_finish counts
    generalize r.runEvents counts = events at hrunning
    generalize r.finish counts = r' at hrunning ⊢
    cases hrunning <;> exact of_ne nofun
  | configure settings _ _ _ => exact h
  | setLogLevel level _ => exact h
  | setLogFile path _ => exact h

theorem perform (h : w.Fresh) (a : Action) : (w.perform a).2.Fresh := by
  have hmoves : Moves (fun _ _ => False) _ w _ := .perform w a
  exact hmoves.invariant (I := fun _ w => w.Fresh) .move [] h

theorem prepare {kb : KnowledgeBase} {r : Reasoner β} (h : Fresh ⟨kb, r⟩) :
    Fresh ⟨kb, (r.prepare kb).2⟩ := by
  have hmoves : Moves (fun _ _ => False) _ ⟨kb, r⟩ _ := .prepare kb r
  exact hmoves.invariant (I := fun _ w => w.Fresh) .move [] h

end Workspace.Fresh

-- A run changes nothing that is taken down before it is over.
theorem Reasoner.launch_eq {β : Type} [Backend β] {r r' : Reasoner β}
    {outcome : Except BackendError Bool} (h : r.launch = (outcome, r')) :
    r'.state = .afterReasoning ∧ r'.completed = r.completed ∧
      r'.materialisation = r.materialisation := by
  obtain rfl := (Prod.mk.inj h).2
  exact ⟨rfl, rfl, rfl⟩

-- The state of the reasoner while a call is at a stage.
def Stage.Suits (state : ReasonerState) : Stage → Prop
  | running => state = .afterLoading
  | returned _ | settled _ _ => state = .afterReasoning
  | entered | ended _ => True

-- What is taken down when the run of a call ends.
def Turn.Leaves {β : Type} (r : Reasoner β) : Turn → Prop
  | recorded _ reported counts => r.completed = (reported && counts) ∧
      r.materialisation = if reported && counts then .complete else .incomplete
  | returned _ (.error _) => r.completed = false ∧ r.materialisation = .incomplete
  | _ => True

namespace Shared

variable {β : Type} {s s' : Shared β} {i j : Nat} {c c' : Call}

-- Only one call has the reasoner for itself, and the reasoner has its ticket, if it is supervised,
-- and no other.
structure Attached (s : Shared β) : Prop where
  free : s.holder = none → s.supervision = none
  held : ∀ {i c stage}, s.calls i = some c → c.worker = .inside stage →
    s.holder = some i ∧ s.supervision = if c.limit.isSome then some i else none

namespace Attached

-- A call keeps its limit, and does not get hold of the reasoner.
theorem withCall (h : s.Attached) (hc : s.calls i = some c) (hlimit : c'.limit = c.limit)
    (hworker : ∀ stage, c'.worker = .inside stage → ∃ stage', c.worker = .inside stage') :
    (s.withCall i c').Attached where
  free := h.free
  held {j c₀ stage} hc₀ hw := by
    rcases calls_withCall_cases hc₀ with ⟨rfl, rfl⟩ | ⟨-, hc₀⟩
    · obtain ⟨stage', hw'⟩ := hworker stage hw
      rw [hlimit]
      exact h.held hc hw'
    · exact h.held hc₀ hw

theorem advance {stage stage' : Stage} (h : s.Attached) (hc : s.calls i = some c)
    (hw : c.worker = .inside stage) :
    (s.withCall i { c with worker := .inside stage' }).Attached :=
  h.withCall hc rfl fun _ _ => ⟨stage, hw⟩

theorem withReasoner (h : s.Attached) (r : Reasoner β) : (s.withReasoner r).Attached :=
  ⟨h.free, h.held⟩

variable [Backend β] {drift : β → β → Prop} {t : Turn}

theorem step (h : s.Attached) (hs : Step drift s t s') : s'.Attached := by
  cases hs with
  | @called i limit hnew =>
    refine ⟨h.free, fun {j c stage} hc hw => ?_⟩
    rcases calls_withCall_cases hc with ⟨rfl, rfl⟩ | ⟨-, hc⟩
    · cases hw
    · exact h.held hc hw
  | @locked i c hc hw hfree =>
    refine ⟨nofun, fun {j c₀ stage} hc₀ hw₀ => ?_⟩
    rcases calls_withCall_cases hc₀ with ⟨rfl, rfl⟩ | ⟨-, hc₀⟩
    · simp [h.free hfree]
    · have hholder := (h.held hc₀ hw₀).1
      simp [hfree] at hholder
  | refused hc hw _ => exact (h.advance hc hw).withReasoner _
  | prepared hc hw _ => exact (h.advance hc hw).withReasoner _
  | returned hc hw _ => exact (h.advance hc hw).withReasoner _
  | finished _ hc' hc hw =>
    refine Attached.advance ?_ hc hw
    exact h.withCall hc' rfl fun stage hw' => ⟨stage, hw'⟩
  | unsupervised _ hc hw => exact h.advance hc hw
  | recorded hc hw => exact (h.advance hc hw).withReasoner _
  | @left i c result hc hw =>
    obtain ⟨hholder, hs⟩ := h.held hc hw
    refine ⟨fun _ => ?_, fun {j c₀ stage} hc₀ hw₀ => ?_⟩
    · simp only [hs]
      split <;> rfl
    · rcases calls_withCall_cases hc₀ with ⟨rfl, rfl⟩ | ⟨hij, hc₀⟩
      · cases hw₀
      · have hholder' := (h.held hc₀ hw₀).1
        exact absurd (Option.some.inj (hholder'.symm.trans hholder)) hij
  | sent hc _ => exact h.withCall hc rfl nofun
  | received hc hw _ => exact h.withCall hc rfl fun stage hw' => ⟨stage, hw'⟩
  | timedOut hc _ _ _ => exact h.withCall hc rfl fun stage hw' => ⟨stage, hw'⟩
  | abandoned hc _ _ => exact h.withCall hc rfl fun stage hw' => ⟨stage, hw'⟩
  | performed _ _ => exact ⟨h.free, h.held⟩
  | drifted _ => exact ⟨h.free, h.held⟩

end Attached

variable [Backend β] {drift : β → β → Prop} {t : Turn}

-- From the point of view of one call, a turn is one of its own or nothing happens.
theorem Step.progress (ha : s.Attached) (hs : Step drift s t s') (i : Nat) :
    Progress i t (s.calls i) (s'.calls i) := by
  have hturn {s : Shared β} {j : Nat} {call : Option Call} {c : Call} {t : Turn}
      (hc : s.calls j = call) (ht : t.Concerns i → j = i)
      (hp : j = i → Progress i t call (some c)) :
      Progress i t (s.calls i) ((s.withCall j c).calls i) := by
    by_cases h : j = i
    · subst h
      rw [hc, calls_withCall_self]
      exact hp rfl
    · rw [calls_withCall_of_ne (Ne.symm h)]
      exact .apart fun hi => h (ht hi)
  cases hs with
  | called hnew => exact hturn hnew id fun h => h ▸ .called
  | locked hc hw _ => exact hturn hc id fun h => h ▸ .locked hw
  | refused hc hw hp =>
    exact hturn hc id fun h =>
      h ▸ .refused hw (Reasoner.prepare_ne_supervision (congrArg Prod.fst hp))
  | prepared hc hw _ => exact hturn hc id fun h => h ▸ .prepared hw
  | returned hc hw _ => exact hturn hc id fun h => h ▸ .returned hw
  | @finished j k c c' reported hk hc' hc hw =>
    -- The ticket is that of the call that has the reasoner.
    have hkj : k = j ∧ c'.limit.isSome := by
      rcases calls_withCall_cases hc with ⟨rfl, rfl⟩ | ⟨hjk, hc⟩
      · have hs := (ha.held hc' hw).2
        rw [hk] at hs
        exact ⟨rfl, by by_contra hn; simp [hn] at hs⟩
      · have hs := (ha.held hc hw).2
        rw [hk] at hs
        split at hs
        · exact absurd (Option.some.inj hs).symm hjk
        · cases hs
    obtain ⟨rfl, hlimit⟩ := hkj
    rw [calls_withCall_self] at hc
    obtain rfl := Option.some.inj hc
    by_cases h : k = i
    · subst h
      rw [hc', calls_withCall_self]
      exact .finished hlimit hw
    · rw [calls_withCall_of_ne (Ne.symm h), calls_withCall_of_ne (Ne.symm h)]
      exact .apart h
  | unsupervised hnone hc hw =>
    refine hturn hc id fun h => h ▸ .unsupervised ?_ hw
    have hs := (ha.held hc hw).2
    rw [hnone] at hs
    by_contra hlimit
    simp [Option.isSome_iff_ne_none.mpr hlimit] at hs
  | recorded hc hw => exact hturn hc id fun h => h ▸ .recorded hw
  | left hc hw => exact hturn hc id fun h => h ▸ .left hw
  | sent hc hw => exact hturn hc id fun h => h ▸ .sent hw
  | received hc hw _ => exact hturn hc id fun h => h ▸ .received hw
  | timedOut hc _ _ _ => exact hturn hc id fun h => h ▸ .timedOut
  | abandoned hc hlimit _ => exact hturn hc id fun h => h ▸ .abandoned hlimit
  | performed _ _ => exact .apart id
  | drifted _ => exact .apart id

-- What the reasoner knows goes with where the calls are.
structure Timely (s : Shared β) : Prop where
  fresh : s.workspace.Fresh
  suits : ∀ {i c stage}, s.calls i = some c → c.worker = .inside stage →
    stage.Suits s.workspace.reasoner.state

namespace Timely

omit [Backend β] in
theorem withCall (h : s.Timely) (hc : s.calls i = some c)
    (hworker : ∀ stage, c'.worker = .inside stage → c.worker = .inside stage) :
    (s.withCall i c').Timely where
  fresh := h.fresh
  suits {j c₀ stage} hc₀ hw := by
    rcases calls_withCall_cases hc₀ with ⟨rfl, rfl⟩ | ⟨-, hc₀⟩
    · exact h.suits hc (hworker stage hw)
    · exact h.suits hc₀ hw

omit [Backend β] in
-- Only the call that has the reasoner changes it.
theorem advance {stage stage' : Stage} {r : Reasoner β} (ha : s.Attached)
    (hc : s.calls i = some c) (hw : c.worker = .inside stage)
    (hfresh : Workspace.Fresh ⟨s.workspace.kb, r⟩) (hsuits : stage'.Suits r.state) :
    ((s.withCall i { c with worker := .inside stage' }).withReasoner r).Timely where
  fresh := hfresh
  suits {j c₀ stage₀} hc₀ hw₀ := by
    rcases calls_withCall_cases hc₀ with ⟨rfl, rfl⟩ | ⟨hij, hc₀⟩
    · obtain rfl := Worker.inside.inj hw₀
      exact hsuits
    · have hholder := (ha.held hc hw).1.symm.trans (ha.held hc₀ hw₀).1
      exact absurd (Option.some.inj hholder).symm hij

theorem step (h : s.Timely) (ha : s.Attached) (hs : Step drift s t s') : s'.Timely := by
  cases hs with
  | @called i limit hnew =>
    refine ⟨h.fresh, fun {j c stage} hc hw => ?_⟩
    rcases calls_withCall_cases hc with ⟨rfl, rfl⟩ | ⟨-, hc⟩
    · cases hw
    · exact h.suits hc hw
  | @locked i c hc hw hfree =>
    refine ⟨h.fresh, fun {j c₀ stage} hc₀ hw₀ => ?_⟩
    rcases calls_withCall_cases hc₀ with ⟨rfl, rfl⟩ | ⟨-, hc₀⟩
    · obtain rfl := Worker.inside.inj hw₀
      trivial
    · exact h.suits hc₀ hw₀
  | @refused i c e r hc hw hp =>
    have hr : r = (s.workspace.reasoner.prepare s.workspace.kb).2 := by rw [hp]
    exact advance ha hc hw (hr ▸ h.fresh.prepare) trivial
  | @prepared i c r hc hw hp =>
    have hr : r = (s.workspace.reasoner.prepare s.workspace.kb).2 := by rw [hp]
    refine advance ha hc hw (hr ▸ h.fresh.prepare) ?_
    rw [hr]
    exact Reasoner.state_of_prepare_ok (congrArg Prod.fst hp)
  | @returned i c outcome r hc hw hrun =>
    obtain ⟨hs, -, -⟩ := Reasoner.launch_eq hrun
    refine advance ha hc hw (.of_ne (by simp [hs])) ?_
    cases outcome with
    | ok reported => exact hs
    | error e => trivial
  | @finished i j c c' reported _ hc' hc hw =>
    let asked : Call := { c' with ticket := c'.ticket.finish.2 }
    have h' : (s.withCall j asked).Timely := h.withCall hc' fun _ hw' => hw'
    have ha' : (s.withCall j asked).Attached := ha.withCall hc' rfl fun stage hw' => ⟨stage, hw'⟩
    have hs : s.workspace.reasoner.state = .afterReasoning := h'.suits hc hw
    exact advance ha' hc hw h.fresh hs
  | @unsupervised i c reported _ hc hw =>
    have hs : s.workspace.reasoner.state = .afterReasoning := h.suits hc hw
    exact advance ha hc hw h.fresh hs
  | recorded hc hw =>
    have hs : s.workspace.reasoner.state = .afterReasoning := h.suits hc hw
    exact advance ha hc hw (.of_ne (by simp [Reasoner.record, hs])) trivial
  | @left i c result hc _ =>
    have h' : (s.withCall i { c with worker := .left result }).Timely :=
      h.withCall hc fun _ hw' => by cases hw'
    exact ⟨h'.fresh, h'.suits⟩
  | sent hc _ => exact h.withCall hc fun _ hw' => by cases hw'
  | received hc _ _ => exact h.withCall hc fun _ hw' => hw'
  | timedOut hc _ _ _ => exact h.withCall hc fun _ hw' => hw'
  | abandoned hc _ _ => exact h.withCall hc fun _ hw' => hw'
  | @performed a _ hfree =>
    refine ⟨h.fresh.perform a, fun hc hw => ?_⟩
    rcases hfree with hfree | hedits
    · have hholder := (ha.held hc hw).1
      rw [hfree] at hholder
      cases hholder
    · have hs := h.suits hc hw
      cases a with
      | add | addMany | remove => exact hs
      | _ => exact hedits.elim
  | drifted _ => exact ⟨h.fresh, h.suits⟩

-- What is taken down at the end of a run is its result. Nothing is where it fails, but nothing was
-- known to be complete before.
theorem leaves (h : s.Timely) (hs : Step drift s t s') : t.Leaves s'.workspace.reasoner := by
  cases hs with
  | @returned i c outcome r hc hw hrun =>
    cases outcome with
    | ok reported => trivial
    | error e =>
      obtain ⟨-, hcompleted, hm⟩ := Reasoner.launch_eq hrun
      have hfresh := h.fresh (h.suits hc hw)
      exact ⟨hcompleted.trans hfresh.1, hm.trans hfresh.2⟩
  | recorded _ _ => exact ⟨rfl, rfl⟩
  | _ => trivial

end Timely

-- What holds of a shared reasoner, with the turns so far.
structure Kept (turns : List (Turn × Shared β)) (s : Shared β) : Prop where
  attached : s.Attached
  timely : s.Timely
  leaves : ∀ e ∈ turns, e.1.Leaves e.2.workspace.reasoner
  accounted : ∀ i, Accounted i (turns.map Prod.fst) (s.calls i)

theorem Interleaving.kept {b : β} {r : Reasoner β} {kb : KnowledgeBase}
    {turns : List (Turn × Shared β)} (hopened : Opened b r)
    (h : Interleaving drift { workspace := ⟨kb, r⟩ } turns s) : Kept turns s := by
  induction h with
  | start =>
    have hs : r.state ≠ .afterLoading := by simp [hopened.state_eq]
    exact
      { attached := ⟨fun _ => rfl, fun hc => nomatch hc⟩
        timely := ⟨.of_ne hs, fun hc => nomatch hc⟩
        leaves := fun _ he => nomatch he
        accounted := fun _ _ ht => nomatch ht }
  | turn _ hs ih =>
    have hleaves := ih.timely.leaves hs
    refine ⟨ih.attached.step hs, ih.timely.step ih.attached hs, ?_, fun i => ?_⟩
    · exact List.forall_mem_cons.mpr ⟨hleaves, ih.leaves⟩
    · exact (ih.accounted i).step (hs.progress ih.attached i)

end Shared

-- A run is over in a turn that takes it down or in which it fails.
theorem Turn.leaves_of_endsRun {β : Type} {i : Nat} {t : Turn} {r : Reasoner β}
    (hends : t.endsRun i = true) (hleaves : t.Leaves r)
    (hlost : ∀ {reported counts}, t = .recorded i reported counts → counts = false) :
    r.completed = false ∧ r.materialisation = .incomplete := by
  cases t with
  | recorded j reported counts =>
    obtain rfl := of_decide_eq_true hends
    obtain ⟨hcompleted, hm⟩ := hleaves
    simpa [hlost rfl] using And.intro hcompleted hm
  | returned j outcome =>
    cases outcome with
    | ok reported => cases hends
    | error e => exact hleaves
  | _ => cases hends

-- However the turns of any number of calls come, with other use of the reasoner between them: the
-- run of a call that was given up on is never taken down as complete, and a call that answers
-- whether everything was derived answers what was taken down of its run. There is one run at most,
-- and its ticket is settled once at most. Whether the run counts is a matter of that ticket alone.
theorem supervision_of_interleaving {β : Type} [Backend β] {drift : β → β → Prop} {b : β}
    {r : Reasoner β} {kb : KnowledgeBase} {turns : List (Turn × Shared β)} {s : Shared β} {i : Nat}
    {c : Call} (hopened : Opened b r)
    (h : Shared.Interleaving drift { workspace := ⟨kb, r⟩ } turns s) (hc : s.calls i = some c) :
    (∀ limit, c.supervisor = .answered (.error (.supervision limit)) →
      ∀ t s', (t, s') ∈ turns → t.endsRun i = true →
        s'.workspace.reasoner.completed = false ∧
          s'.workspace.reasoner.materialisation = .incomplete) ∧
    (∀ completed, c.supervisor = .answered (.ok completed) ∨
        c.worker.result? = some (.ok completed) →
      ∃ reported counts s', (.recorded i reported counts, s') ∈ turns ∧
        s'.workspace.reasoner.completed = completed ∧
        s'.workspace.reasoner.materialisation = if completed then .complete else .incomplete) ∧
    (∀ reported counts s', (.recorded i reported counts, s') ∈ turns →
      (∃ s'', (.returned i (.ok reported), s'') ∈ turns) ∧
      s'.workspace.reasoner.completed = (reported && counts) ∧
      (counts = false ↔ ∃ s'', (.abandoned i true, s'') ∈ turns) ∧
      (c.limit = none → counts = true)) ∧
    turns.countP (fun e => e.1.settles i) ≤ 1 ∧ turns.countP (fun e => e.1.endsRun i) ≤ 1 := by
  have hkept := h.kept hopened
  have hledger : Ledger i (turns.map Prod.fst) c := by
    have haccounted := hkept.accounted i
    rwa [hc] at haccounted
  have hmem {t : Turn} : t ∈ turns.map Prod.fst ↔ ∃ s', (t, s') ∈ turns := by simp
  refine ⟨fun limit hs t s' ht hends => ?_, fun completed hs => ?_, fun reported counts s' ht => ?_,
    ?_, ?_⟩
  · refine Turn.leaves_of_endsRun hends (hkept.leaves _ ht) ?_
    rintro reported counts rfl
    exact (hledger.counts_eq_false_iff (hmem.mpr ⟨s', ht⟩)).mpr (hledger.abandoned_of_answered hs)
  · obtain ⟨reported, counts, hrecorded, rfl⟩ := hledger.earned_of_ok hs
    obtain ⟨s', ht⟩ := hmem.mp hrecorded
    exact ⟨reported, counts, s', ht, hkept.leaves _ ht⟩
  · have hrecorded := hmem.mpr ⟨s', ht⟩
    obtain ⟨hreturned, hcounts⟩ := hledger.recorded hrecorded
    refine ⟨hmem.mp hreturned, (hkept.leaves _ ht).1, ?_, fun hlimit => ?_⟩
    · rw [← hmem, hledger.abandoned]
      exact hledger.counts_eq_false_iff hrecorded
    · cases counts with
      | true => rfl
      | false => exact absurd hlimit hcounts.1
  · have hsettles := hledger.settles
    rw [List.countP_map] at hsettles
    have hle : turns.countP (Turn.settles i ∘ Prod.fst) ≤ 1 := by
      rw [hsettles]
      split <;> omega
    exact hle
  · have hends := hledger.ends
    rwa [List.countP_map] at hends

-- A run that is given up on, and derives everything after that.
theorem supervision_withFact :
    ∃ turns s c,
      Shared.Interleaving (fun _ _ => False) { workspace := Workspace.withFact } turns s ∧
      s.calls 0 = some c ∧ c.supervisor = .answered (.error (.supervision 1)) ∧
      ∃ s', (.recorded 0 true false, s') ∈ turns ∧
        s'.workspace.reasoner.completed = false ∧
        s'.workspace.reasoner.materialisation = .incomplete := by
  have hprepare : Workspace.withFact.reasoner.prepare Workspace.withFact.kb =
      (.ok (), Workspace.withFactLoaded.reasoner) := rfl
  have hlaunch : Workspace.withFactLoaded.reasoner.launch =
      (.ok true, Workspace.withFactLoaded.reasoner.launch.2) := rfl
  have hstart : Shared.Interleaving (fun _ _ => False) { workspace := Workspace.withFact } [] _ :=
    .start
  have hcalled := hstart.turn (t := .called 0 (some 1)) (.called rfl)
  have hlocked := hcalled.turn (.locked (i := 0) rfl rfl rfl)
  have hrunning := hlocked.turn (.prepared (i := 0) rfl rfl hprepare)
  have hoverdue := hrunning.turn (.timedOut (i := 0) rfl rfl rfl nofun)
  have habandoned := hoverdue.turn (.abandoned (i := 0) rfl rfl rfl)
  have hreturned := habandoned.turn (.returned (i := 0) rfl rfl hlaunch)
  have hfinished := hreturned.turn (.finished (i := 0) rfl rfl rfl rfl)
  have hrecorded := hfinished.turn (.recorded (i := 0) rfl rfl)
  obtain ⟨hlost, -⟩ := supervision_of_interleaving (i := 0) .new hrecorded rfl
  exact ⟨_, _, _, hrecorded, rfl, rfl, _, List.mem_cons_self,
    hlost 1 rfl _ _ List.mem_cons_self rfl⟩

end Rulebook
