import Rulebook.KnowledgeBase
import Rulebook.ModelError
import Rulebook.Reasoner.Error
import Rulebook.Settings
import Rulebook.Solver.Error

namespace Rulebook

-- Any error of the library. Each is reported as its part reports it.
inductive Failure
  | model (cause : ModelError)
  | knowledgeBase (cause : KbError)
  | reasoner (cause : ReasonerError)
  | solver (cause : SolverError)
  | settings (cause : SettingsError)
  deriving DecidableEq

def Failure.diagnostic : Failure → Diagnostic
  | model e => e.diagnostic
  | knowledgeBase e => e.diagnostic
  | reasoner e => e.diagnostic
  | solver e => e.diagnostic
  | settings e => e.diagnostic

end Rulebook
