import Rulebook.Reasoner.Action

namespace Rulebook

-- How far a call is that has the reasoner for itself.
inductive Stage
  -- nothing has been done yet
  | entered
  -- the engine runs
  | running
  -- the run has ended, and the engine has said whether everything was derived
  | returned (reported : Bool)
  -- it is settled whether that counts
  | settled (reported counts : Bool)
  -- there is a result
  | ended (result : Except ReasonerError Bool)

-- A run that fails is not taken down.
def Stage.ofOutcome : Except BackendError Bool → Stage
  | .ok reported => .returned reported
  | .error e => .ended (.error (.ofBackend e))

-- The worker of a call. It does not die before it has a result.
inductive Worker
  -- until the reasoner is free
  | waiting
  | inside (stage : Stage)
  | left (result : Except ReasonerError Bool)
  | sent (result : Except ReasonerError Bool)

-- The side of a call that waits for its worker.
inductive Supervisor
  | listening
  -- the time is over
  | overdue
  -- the run had ended by then, so its result is waited for
  | patient
  | answered (result : Except ReasonerError Bool)

-- A call to reason with a reasoner that others use too. Without a limit it is not supervised, and
-- nobody looks at its ticket.
structure Call where
  limit : Option Nat
  ticket : Ticket := .running
  worker : Worker := .waiting
  supervisor : Supervisor := .listening

-- A reasoner that is shared by calls. One of them at a time has it for itself. The reasoner asks
-- the ticket that was last given to it, whoever uses it.
structure Shared (β : Type) where
  workspace : Workspace β
  holder : Option Nat := none
  supervision : Option Nat := none
  calls : Nat → Option Call := fun _ => none

-- What can happen next.
inductive Turn
  | called (i : Nat) (limit : Option Nat)
  | locked (i : Nat)
  | refused (i : Nat) (e : ReasonerError)
  | prepared (i : Nat)
  | returned (i : Nat) (outcome : Except BackendError Bool)
  -- the ticket of a call is finished, if it still can be
  | finished (i : Nat) (success : Bool)
  -- there is no ticket
  | unsupervised (i : Nat)
  | recorded (i : Nat) (reported counts : Bool)
  | left (i : Nat)
  | sent (i : Nat)
  | received (i : Nat)
  | timedOut (i : Nat)
  -- the ticket of a call is abandoned, if it still can be
  | abandoned (i : Nat) (success : Bool)
  -- something else is done in the workspace
  | performed (a : Action)
  -- the engine changes by itself
  | drifted

-- Actions that are calls here.
def Action.Runs : Action → Prop
  | reason | supervise _ _ => True
  | _ => False

-- Actions that do not need the reasoner.
def Action.Edits : Action → Prop
  | add _ | addMany _ | remove _ => True
  | _ => False

namespace Shared

variable {β : Type}

def withCall (i : Nat) (c : Call) (s : Shared β) : Shared β :=
  { s with calls := fun j => if j = i then some c else s.calls j }

def withReasoner (r : Reasoner β) (s : Shared β) : Shared β :=
  { s with workspace := { s.workspace with reasoner := r } }

variable [Backend β]

-- One turn, of the caller, the worker or the supervisor of a call, or of somebody else. To take the
-- reasoner and to ask a ticket take one turn each.
inductive Step (drift : β → β → Prop) (s : Shared β) : Turn → Shared β → Prop
  | called {i : Nat} {limit : Option Nat} (hnew : s.calls i = none) :
      Step drift s (.called i limit) (s.withCall i { limit := limit })
  | locked {i : Nat} {c : Call} (hc : s.calls i = some c) (hw : c.worker = .waiting)
      (hfree : s.holder = none) :
      Step drift s (.locked i)
        { s.withCall i { c with worker := .inside .entered } with
          holder := some i
          supervision := if c.limit.isSome then some i else s.supervision }
  | refused {i : Nat} {c : Call} {e : ReasonerError} {r : Reasoner β} (hc : s.calls i = some c)
      (hw : c.worker = .inside .entered)
      (hp : s.workspace.reasoner.prepare s.workspace.kb = (.error e, r)) :
      Step drift s (.refused i e)
        ((s.withCall i { c with worker := .inside (.ended (.error e)) }).withReasoner r)
  | prepared {i : Nat} {c : Call} {r : Reasoner β} (hc : s.calls i = some c)
      (hw : c.worker = .inside .entered)
      (hp : s.workspace.reasoner.prepare s.workspace.kb = (.ok (), r)) :
      Step drift s (.prepared i)
        ((s.withCall i { c with worker := .inside .running }).withReasoner r)
  | returned {i : Nat} {c : Call} {outcome : Except BackendError Bool} {r : Reasoner β}
      (hc : s.calls i = some c) (hw : c.worker = .inside .running)
      (hrun : s.workspace.reasoner.launch = (outcome, r)) :
      Step drift s (.returned i outcome)
        ((s.withCall i { c with worker := .inside (.ofOutcome outcome) }).withReasoner r)
  -- The worker of one call asks the ticket of the call that the reasoner knows of.
  | finished {i j : Nat} {c c' : Call} {reported : Bool} (hj : s.supervision = some j)
      (hc' : s.calls j = some c')
      (hc : (s.withCall j { c' with ticket := c'.ticket.finish.2 }).calls i = some c)
      (hw : c.worker = .inside (.returned reported)) :
      Step drift s (.finished j c'.ticket.finish.1)
        ((s.withCall j { c' with ticket := c'.ticket.finish.2 }).withCall i
          { c with worker := .inside (.settled reported c'.ticket.finish.1) })
  | unsupervised {i : Nat} {c : Call} {reported : Bool} (hnone : s.supervision = none)
      (hc : s.calls i = some c) (hw : c.worker = .inside (.returned reported)) :
      Step drift s (.unsupervised i)
        (s.withCall i { c with worker := .inside (.settled reported true) })
  | recorded {i : Nat} {c : Call} {reported counts : Bool} (hc : s.calls i = some c)
      (hw : c.worker = .inside (.settled reported counts)) :
      Step drift s (.recorded i reported counts)
        ((s.withCall i
          { c with worker := .inside (.ended (.ok (reported && counts))) }).withReasoner
            (s.workspace.reasoner.record (reported && counts)))
  | left {i : Nat} {c : Call} {result : Except ReasonerError Bool} (hc : s.calls i = some c)
      (hw : c.worker = .inside (.ended result)) :
      Step drift s (.left i)
        { s.withCall i { c with worker := .left result } with
          holder := none
          supervision := if c.limit.isSome then none else s.supervision }
  | sent {i : Nat} {c : Call} {result : Except ReasonerError Bool} (hc : s.calls i = some c)
      (hw : c.worker = .left result) :
      Step drift s (.sent i) (s.withCall i { c with worker := .sent result })
  | received {i : Nat} {c : Call} {result : Except ReasonerError Bool} (hc : s.calls i = some c)
      (hw : c.worker = .sent result) (hs : c.supervisor = .listening ∨ c.supervisor = .patient) :
      Step drift s (.received i) (s.withCall i { c with supervisor := .answered result })
  | timedOut {i limit : Nat} {c : Call} (hc : s.calls i = some c) (hlimit : c.limit = some limit)
      (hs : c.supervisor = .listening) (hw : ∀ result, c.worker ≠ .sent result) :
      Step drift s (.timedOut i) (s.withCall i { c with supervisor := .overdue })
  | abandoned {i limit : Nat} {c : Call} (hc : s.calls i = some c) (hlimit : c.limit = some limit)
      (hs : c.supervisor = .overdue) :
      Step drift s (.abandoned i c.ticket.abandon.1)
        (s.withCall i { c with
          ticket := c.ticket.abandon.2
          supervisor :=
            if c.ticket.abandon.1 then .answered (.error (.supervision limit)) else .patient })
  | performed {a : Action} (ha : ¬a.Runs) (hfree : s.holder = none ∨ a.Edits) :
      Step drift s (.performed a) { s with workspace := (s.workspace.perform a).2 }
  | drifted {b : β} (hb : drift s.workspace.reasoner.backend b) :
      Step drift s .drifted (s.withReasoner { s.workspace.reasoner with backend := b })

-- Turns in any order, the latest first, each with what there is after it.
inductive Interleaving (drift : β → β → Prop) (start : Shared β) :
    List (Turn × Shared β) → Shared β → Prop
  | start : Interleaving drift start [] start
  | turn {turns : List (Turn × Shared β)} {s s' : Shared β} {t : Turn}
      (h : Interleaving drift start turns s) (hs : Step drift s t s') :
      Interleaving drift start ((t, s') :: turns) s'

end Shared

end Rulebook
