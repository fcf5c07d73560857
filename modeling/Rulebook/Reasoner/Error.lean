import Rulebook.Diagnostic
import Rulebook.Reasoner.State
import Rulebook.Text.Duration

namespace Rulebook

-- What an engine can report.
inductive BackendError
  | notStarted
  | alreadyStarted
  | sourceConfiguration (message : String)
  | materialization (message : String)
  | unknownPredicate (predicate : String)
  | io (message : String)
  deriving DecidableEq

namespace BackendError

def message : BackendError → String
  | notStarted => "backend has not been activated"
  | alreadyStarted => "backend is already active"
  | sourceConfiguration message => "invalid source configuration: " ++ message
  | materialization message => "materialization failed: " ++ message
  | unknownPredicate predicate => "predicate " ++ predicate ++ " does not exist in the backend"
  | io message => "backend I/O error: " ++ message

def code : BackendError → String
  | notStarted => "chaseward::backend::not_started"
  | alreadyStarted => "chaseward::backend::already_started"
  | sourceConfiguration _ => "chaseward::backend::edb_configuration"
  | materialization _ => "chaseward::backend::materialization"
  | unknownPredicate _ => "chaseward::backend::non_existing_predicate"
  | io _ => "chaseward::backend::io"

def diagnostic (e : BackendError) : Diagnostic :=
  ⟨e.code, e.message, none⟩

end BackendError

-- What a reasoner can report. Times are in nanoseconds.
inductive ReasonerError
  | state (state : ReasonerState) (message : String)
  | arityMismatch (predicate : String) (declared actual : Nat) (source : String)
  | configuration (message : String)
  | materialization (message : String)
  | unknownQueryPredicate (predicate : String)
  | invalidTimeout
  | invalidCsvPath (path : String)
  | supervision (limit : Nat)
  | backend (message : String)
  deriving DecidableEq

namespace ReasonerError

-- An error of the engine that the reasoner should have prevented points at the reasoner.
def ofBackend : BackendError → ReasonerError
  | .sourceConfiguration message => .configuration message
  | .materialization message => .materialization message
  | .unknownPredicate predicate => .unknownQueryPredicate predicate
  | e => .backend e.message

def message : ReasonerError → String
  | state s message => "operation not allowed in state " ++ s.text ++ ": " ++ message
  | arityMismatch predicate declared actual source =>
    "predicate " ++ predicate ++ " is declared with arity " ++ toString declared ++
      ", but its source " ++ source ++ " has arity " ++ toString actual
  | configuration message => "invalid data source configuration: " ++ message
  | materialization message =>
    "knowledge base incompatible with the evaluation strategy: " ++ message
  | unknownQueryPredicate predicate =>
    "query predicate " ++ predicate ++ " does not occur in the loaded knowledge base"
  | invalidTimeout => "reasoning timeout must be strictly positive"
  | invalidCsvPath path => "expected a .csv extension for export file " ++ path
  | supervision limit => "reasoning did not finish within " ++ Text.duration limit
  | backend message => "inconsistent reasoner state: " ++ message

def code : ReasonerError → String
  | state _ _ => "chaseward::reasoner::state"
  | arityMismatch _ _ _ _ => "chaseward::reasoner::arity_mismatch"
  | configuration _ => "chaseward::reasoner::configuration"
  | materialization _ => "chaseward::reasoner::materialization"
  | unknownQueryPredicate _ => "chaseward::reasoner::unknown_query_predicate"
  | invalidTimeout => "chaseward::reasoner::invalid_timeout"
  | invalidCsvPath _ => "chaseward::reasoner::invalid_csv_path"
  | supervision _ => "chaseward::reasoner::supervision_timeout"
  | backend _ => "chaseward::reasoner::backend"

def help : ReasonerError → String
  | state _ _ =>
    "Reasoner operations follow a fixed lifecycle: load, reason, query. " ++
      "Call reset() to undo loading and reasoning; a closed reasoner cannot be reused."
  | arityMismatch _ _ _ _ =>
    "Fix the arity in the data source declaration, or point the " ++
      "declaration at a source with matching columns."
  | configuration _ =>
    "The data sources could not be configured. Check file paths, " ++
      "extensions and SPARQL endpoints in the source declarations."
  | materialization _ =>
    "Either the rules are not stratifiable, or the variables in a " ++
      "negated atom cannot be bound by the positive body."
  | unknownQueryPredicate _ =>
    "Query only predicates used by facts, rules or data source declarations."
  | invalidTimeout => "Pass a positive number of seconds, or None for no timeout."
  | invalidCsvPath _ =>
    "Query answers are exported as CSV; name the target file accordingly."
  | supervision _ =>
    "The reasoning thread was abandoned; the reasoner keeps its partial " ++
      "result. Set a reasoning timeout to let the backend stop cleanly."
  | backend _ =>
    "The backend rejected a call the lifecycle should have allowed. File a bug report."

def diagnostic (e : ReasonerError) : Diagnostic :=
  ⟨e.code, e.message, some e.help⟩

end ReasonerError

end Rulebook
