import Rulebook.Classification
import Rulebook.KnowledgeBase
import Rulebook.Reasoner.Backend

namespace Rulebook

-- A reasoner compiles a knowledge base into an engine and knows what the answers of the engine
-- are worth. It is not told of changes: it remembers the version that it loaded and compares.
structure Reasoner (β : Type) where
  backend : β
  index : Classification := {}
  state : ReasonerState := .beforeLoading
  materialisation : Materialisation := .incomplete
  settings : ReasonerSettings := {}
  loadedVersion : Option Nat := none
  completed : Bool := false

namespace Reasoner

variable {β : Type} [Backend β]

-- The knowledge base is not at the version that was loaded.
def advanced (kb : KnowledgeBase) (r : Reasoner β) : Bool :=
  match r.loadedVersion with
  | some version => kb.version != version
  | none => false

-- What was loaded is stale. Before loading and after closing this changes nothing.
def markChanged (r : Reasoner β) : Reasoner β :=
  match r.state with
  | .afterLoading | .afterReasoning =>
    { r with state := .knowledgeBaseChanged, materialisation := .wrong }
  | _ => r

-- Take note of a change since the last operation.
def observe (kb : KnowledgeBase) (r : Reasoner β) : Reasoner β :=
  if r.advanced kb then r.markChanged else r

-- The state as it is seen from outside, with changes that have not been noted yet.
def shownState (kb : KnowledgeBase) (r : Reasoner β) : ReasonerState :=
  match r.state with
  | .afterLoading | .afterReasoning =>
    if r.advanced kb then .knowledgeBaseChanged else r.state
  | s => s

def shownMaterialisation (kb : KnowledgeBase) (r : Reasoner β) : Materialisation :=
  match r.shownState kb with
  | .knowledgeBaseChanged => .wrong
  | _ => r.materialisation

def refusal (message : String) (r : Reasoner β) : ReasonerError :=
  .state r.state message

-- Give up what was loaded.
def unload (r : Reasoner β) : Reasoner β :=
  { r with state := .beforeLoading, loadedVersion := none, backend := Backend.stop r.backend }

def reset (kb : KnowledgeBase) (r : Reasoner β) : Except ReasonerError Unit × Reasoner β :=
  let r := r.observe kb
  match r.state with
  | .afterClosing => (.error (r.refusal "Resetting is not allowed after closing."), r)
  | _ => (.ok (), r.unload)

-- Closing once is enough.
def close (r : Reasoner β) : Reasoner β :=
  match r.state with
  | .afterClosing => r
  | _ => { r with state := .afterClosing, loadedVersion := none, backend := Backend.stop r.backend }

-- The rows of a source have to fit the predicate that it is loaded into. An empty source fits.
def checkArities (b : β) : List (Predicate × DataSource) → Except ReasonerError Unit
  | [] => .ok ()
  | (p, s) :: sources =>
    match Backend.predicateArity p.engineName b with
    | .error e => .error (.ofBackend e)
    | .ok none => checkArities b sources
    | .ok (some actual) =>
      if actual = p.arity then checkArities b sources
      else .error (.arityMismatch p.text p.arity actual s.text)

-- Facts are handed over predicate by predicate, as the names of their terms.
def addFacts (c : Classification) : List (Predicate × List Fact) → β →
    Except ReasonerError Unit × β
  | [], b => (.ok (), b)
  | (p, facts) :: rest, b =>
    match c.factTarget p with
    | none => (.error (.backend ("facts for " ++ p.text ++ " have no target predicate")), b)
    | some target =>
      match Backend.addData target.engineName (facts.map fun f => f.terms.map Term.name) b with
      | (.error e, b) => (.error (.ofBackend e), b)
      | (.ok (), b) => addFacts c rest b

-- Hand everything that was compiled over to an engine that has just been started.
def populate (settings : ReasonerSettings) (c : Classification) (b : β) :
    Except ReasonerError Unit × β :=
  let b := Backend.setLogLevel settings.logLevel b
  match checkArities b c.external with
  | .error e => (.error e, b)
  | .ok () =>
    match addFacts c c.facts b with
    | (.error e, b) => (.error e, b)
    | (.ok (), b) =>
      match Backend.setRules c.rules settings.headStrategy b with
      | (.error e, b) => (.error (.ofBackend e), b)
      | (.ok (), b) => (.ok (), b)

-- Load into an engine that holds nothing. If that fails, it holds nothing afterwards.
def loadFresh (kb : KnowledgeBase) (r : Reasoner β) : Except ReasonerError Unit × Reasoner β :=
  let r := { r with index := .build kb.statements }
  match r.index.sourceConfiguration with
  | .error e => (.error (.configuration e.message), r)
  | .ok config =>
    match Backend.activate config r.backend with
    | (.error e, b) => (.error (.ofBackend e), { r with backend := b })
    | (.ok (), b) =>
      match populate r.settings r.index b with
      | (.error e, b) => (.error e, { r with backend := Backend.stop b })
      | (.ok (), b) =>
        (.ok (),
          { r with
            backend := b
            state := .afterLoading
            materialisation := .incomplete
            completed := false
            loadedVersion := some kb.version })

-- Compile the knowledge base and hand it to the engine. What was loaded before is given up.
def load (kb : KnowledgeBase) (r : Reasoner β) : Except ReasonerError Unit × Reasoner β :=
  let r := r.observe kb
  match r.state with
  | .afterClosing => (.error (r.refusal "Loading is not allowed after closing."), r)
  | .beforeLoading => r.loadFresh kb
  | _ => r.unload.loadFresh kb

-- Make sure that the engine holds the knowledge base as it is, and no inferences.
def prepare (kb : KnowledgeBase) (r : Reasoner β) : Except ReasonerError Unit × Reasoner β :=
  let r := r.observe kb
  match r.state with
  | .afterClosing => (.error (r.refusal "Reasoning is not allowed after closing."), r)
  | .beforeLoading => r.load kb
  | .afterLoading => (.ok (), r)
  | .afterReasoning | .knowledgeBaseChanged => r.unload.load kb

-- Start a run. The answer is that of the engine, when the run ends.
def launch (r : Reasoner β) : Except BackendError Bool × Reasoner β :=
  let (outcome, b) := Backend.materialize (r.settings.algorithm = .skolemChase)
    r.settings.timeoutSeconds r.backend
  (outcome, { r with state := .afterReasoning, backend := b })

-- Take down whether a run derived everything.
def record (completed : Bool) (r : Reasoner β) : Reasoner β :=
  { r with
    completed := completed
    materialisation := if completed then .complete else .incomplete }

-- Reason about the knowledge base as it is, loading it where needed. The answer tells whether
-- everything was derived.
def reason (kb : KnowledgeBase) (r : Reasoner β) : Except ReasonerError Bool × Reasoner β :=
  match r.prepare kb with
  | (.error e, r) => (.error e, r)
  | (.ok (), r) =>
    match r.launch with
    | (.error e, r) => (.error (.ofBackend e), r)
    | (.ok completed, r) => (.ok completed, r.record completed)

end Reasoner

end Rulebook
