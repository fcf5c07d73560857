import Rulebook.Reasoner.Lifecycle

namespace Rulebook

-- Answers, and what is known of the result that they come from.
structure QueryAnswers where
  rows : List (List Term)
  materialisation : Materialisation
  deriving DecidableEq

def QueryAnswers.correctness (a : QueryAnswers) : Correctness :=
  a.materialisation.correctness

structure QueryCount where
  count : Nat
  correctness : Correctness
  deriving DecidableEq

-- A file that was written, and what is known of the result in it.
structure Export where
  content : String
  materialisation : Materialisation
  deriving DecidableEq

namespace Reasoner

variable {β : Type} [Backend β]

-- Some operations need a loaded engine.
def whenLoaded {α : Type} (beforeLoading afterClosing : String) (r : Reasoner β)
    (act : Except ReasonerError α) : Except ReasonerError α :=
  match r.state with
  | .beforeLoading => .error (r.refusal beforeLoading)
  | .afterClosing => .error (r.refusal afterClosing)
  | _ => act

-- An unknown predicate is named as in the query and not as the engine knows it.
def queryError (query : Atom) : BackendError → ReasonerError
  | .unknownPredicate _ => .unknownQueryPredicate query.predicate.text
  | e => .ofBackend e

def whenQueryable {α : Type} : Reasoner β → Except ReasonerError α → Except ReasonerError α :=
  whenLoaded "Querying is not allowed before the reasoner is loaded."
    "Querying is not allowed after closing."

-- All values in answers are read as constants.
def answerQuery (kb : KnowledgeBase) (query : Atom) (nulls : Bool) (r : Reasoner β) :
    Except ReasonerError QueryAnswers :=
  r.whenQueryable <|
    match Backend.query query.predicate.engineName query.terms nulls r.backend with
    | .error e => .error (queryError query e)
    | .ok rows => .ok ⟨rows.map (·.map Term.constant), r.shownMaterialisation kb⟩

def countQueryAnswers (kb : KnowledgeBase) (query : Atom) (nulls : Bool) (r : Reasoner β) :
    Except ReasonerError QueryCount :=
  (r.answerQuery kb query nulls).map fun a => ⟨a.rows.length, a.correctness⟩

-- Answers are written to files of one kind only.
def exportQueryAnswers (kb : KnowledgeBase) (query : Atom) (nulls : Bool) (file : OutputFile)
    (r : Reasoner β) : Except ReasonerError Export :=
  r.whenQueryable <|
    if file.path.extensionText? ≠ some "csv" then .error (.invalidCsvPath file.path.shown)
    else
      match Backend.writeCsv query.predicate.engineName query.terms nulls file r.backend with
      | .error e => .error (queryError query e)
      | .ok content => .ok ⟨content, r.shownMaterialisation kb⟩

def checkCyclic (notion : CyclicityNotion) (r : Reasoner β) : Except ReasonerError CyclicCheck :=
  r.whenLoaded "Checking rule acyclicity is not allowed before loading."
    "Checking rule acyclicity is not allowed after closing." <|
    (Backend.checkCyclic notion r.backend).mapError .ofBackend

-- Whether a criterion holds: the last one for rules with cycles, the others for rules without.
def holds (notion : CyclicityNotion) (r : Reasoner β) : Except ReasonerError Bool :=
  (r.checkCyclic notion).map fun verdict =>
    verdict = if notion = .mfc then CyclicCheck.cyclic else CyclicCheck.nonCyclic

-- Whether one of some criteria holds. Those after the first that holds are not tried.
def holdsAny (r : Reasoner β) : List CyclicityNotion → Except ReasonerError Bool
  | [] => .ok false
  | notion :: notions =>
    match r.holds notion with
    | .error e => .error e
    | .ok true => .ok true
    | .ok false => r.holdsAny notions

-- The criteria are tried in the order of their cost.
def checkForCycles (r : Reasoner β) : Except ReasonerError Cyclicity :=
  match r.holdsAny [.ja, .rja, .mfa, .rmfa] with
  | .error e => .error e
  | .ok true => .ok .acyclic
  | .ok false => (r.holds .mfc).map fun cyclic => if cyclic then .cyclic else .undetermined

end Reasoner

end Rulebook
