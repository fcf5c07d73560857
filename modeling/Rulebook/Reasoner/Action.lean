import Rulebook.Reasoner.Configuration
import Rulebook.Reasoner.Query
import Rulebook.Reasoner.Supervision

namespace Rulebook

-- A reasoner with the knowledge base that it shares with others. Every file that it writes has an
-- empty folder for itself.
structure Workspace (β : Type) where
  kb : KnowledgeBase
  reasoner : Reasoner β

-- What can be done in a workspace.
inductive Action
  | load
  | reason
  | supervise (limit : Nat) (pace : Pace)
  | reset
  | close
  | add (statement : Statement)
  | addMany (statements : List Statement)
  | remove (statement : Statement)
  -- tell the reasoner that the knowledge base has changed
  | notify
  | query (atom : Atom) (nulls : Bool)
  | count (atom : Atom) (nulls : Bool)
  | exportCsv (atom : Atom) (nulls : Bool) (path : Path)
  | checkNotion (notion : CyclicityNotion)
  | checkForCycles
  | setAlgorithm (algorithm : Algorithm)
  | setTimeout (seconds : Option Nat)
  | setHeadStrategy (strategy : HeadStrategy)
  | setLogLevel (level : LogLevel)
  | setLogFile (path : Path)

-- What an action answers.
inductive Answer
  | done
  | verdict (value : Bool)
  | answers (value : QueryAnswers)
  | count (value : QueryCount)
  | exported (value : Export)
  | cyclicity (value : Cyclicity)
  deriving DecidableEq

namespace Workspace

variable {α β : Type} [Backend β]

-- The reasoner does something.
def act (answer : α → Answer) (w : Workspace β) (result : Except ReasonerError α × Reasoner β) :
    Except ReasonerError Answer × Workspace β :=
  (result.1.map answer, { w with reasoner := result.2 })

-- The reasoner is only asked something.
def ask (answer : α → Answer) (w : Workspace β) (result : Except ReasonerError α) :
    Except ReasonerError Answer × Workspace β :=
  (result.map answer, w)

def done (_ : Unit) : Answer :=
  .done

-- Actions on the knowledge base leave the reasoner alone.
def perform (w : Workspace β) : Action → Except ReasonerError Answer × Workspace β
  | .load => w.act done (w.reasoner.load w.kb)
  | .reason => w.act .verdict (w.reasoner.reason w.kb)
  | .supervise limit pace => w.act .verdict (w.reasoner.superviseReason w.kb limit pace)
  | .reset => w.act done (w.reasoner.reset w.kb)
  | .close => (.ok .done, { w with reasoner := w.reasoner.close })
  | .add s => (.ok .done, { w with kb := w.kb.add s })
  | .addMany ss => (.ok .done, { w with kb := w.kb.addMany ss })
  | .remove s => (.ok (.verdict (w.kb.remove s).1), { w with kb := (w.kb.remove s).2 })
  | .notify => (.ok .done, { w with reasoner := w.reasoner.markChanged })
  | .query atom nulls => w.ask .answers (w.reasoner.answerQuery w.kb atom nulls)
  | .count atom nulls => w.ask .count (w.reasoner.countQueryAnswers w.kb atom nulls)
  | .exportCsv atom nulls path =>
    w.ask .exported
      (w.reasoner.exportQueryAnswers w.kb atom nulls (OutputFile.inEmptyFolder path))
  | .checkNotion notion => w.ask .verdict (w.reasoner.holds notion)
  | .checkForCycles => w.ask .cyclicity w.reasoner.checkForCycles
  | .setAlgorithm algorithm => (.ok .done, { w with reasoner := w.reasoner.setAlgorithm algorithm })
  | .setTimeout seconds => w.act done (w.reasoner.setTimeout seconds)
  | .setHeadStrategy strategy => w.act done (w.reasoner.setHeadStrategy w.kb strategy)
  | .setLogLevel level => w.act done (w.reasoner.setLogLevel level)
  | .setLogFile path => w.act done (w.reasoner.setLogFile path)

-- Do one thing after the other, whether or not they succeed.
def run (w : Workspace β) : List Action → List (Except ReasonerError Answer) × Workspace β
  | [] => ([], w)
  | a :: actions =>
    let (answer, w) := w.perform a
    let (answers, w) := run w actions
    (answer :: answers, w)

end Workspace

end Rulebook
