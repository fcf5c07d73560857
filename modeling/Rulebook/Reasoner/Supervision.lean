import Rulebook.Reasoner.Lifecycle

namespace Rulebook

-- Settles whether a supervised run finished or was given up on. What comes first counts.
inductive Ticket
  | running
  | finished
  | abandoned
  deriving DecidableEq

namespace Ticket

-- When the run ends. The answer tells whether its result counts.
def finish : Ticket → Bool × Ticket
  | running => (true, finished)
  | t => (false, t)

-- When the time is over. The answer tells whether the run is given up on.
def abandon : Ticket → Bool × Ticket
  | running => (true, abandoned)
  | t => (false, t)

end Ticket

-- Whether a supervised run ends before its supervisor loses patience.
inductive Pace
  | withinLimit
  | late
  deriving DecidableEq

-- The ticket as a run of some pace finds it at its end.
def Pace.ticketAtEnd : Pace → Ticket
  | withinLimit => .running
  | late => Ticket.running.abandon.2

namespace Reasoner

variable {β : Type} [Backend β]

-- Take down the result of a run with a ticket. A run that was given up on is not complete,
-- whatever the engine says.
def settle (ticket : Ticket) (completed : Bool) (r : Reasoner β) : Reasoner β :=
  r.record (completed && ticket.finish.1)

-- Reason under supervision, with a limit in nanoseconds. A late run goes on after the supervisor
-- has reported it, and only its end is what the reasoner shows.
def superviseReason (kb : KnowledgeBase) (limit : Nat) (pace : Pace) (r : Reasoner β) :
    Except ReasonerError Bool × Reasoner β :=
  match r.prepare kb with
  | (.error e, r) => (.error e, r)
  | (.ok (), r) =>
    let (outcome, r) := r.launch
    let r :=
      match outcome with
      | .error _ => r
      | .ok completed => r.settle pace.ticketAtEnd completed
    match pace, outcome with
    | .late, _ => (.error (.supervision limit), r)
    | .withinLimit, .error e => (.error (.ofBackend e), r)
    | .withinLimit, .ok _ => (.ok r.completed, r)

end Reasoner

end Rulebook
