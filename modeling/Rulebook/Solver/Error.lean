import Rulebook.Diagnostic

namespace Rulebook

-- Why a solver cannot be used.
inductive SolverError
  | spawn (command : String)
  | io (message : String)
  | notStarted
  deriving DecidableEq

def SolverError.diagnostic : SolverError → Diagnostic
  | spawn command =>
    ⟨"chaseward::solver::spawn", "failed to start solver: " ++ command,
      some ("Check that the solver binary is installed and on PATH, or set " ++
        "`binary` in the [clingo] / [dlv] section of the config file.")⟩
  | io message => ⟨"chaseward::solver::io", "solver I/O error: " ++ message, none⟩
  | notStarted =>
    ⟨"chaseward::solver::not_started", "solver process has not been started",
      some "Call exec() before using the solver's input or output."⟩

end Rulebook
