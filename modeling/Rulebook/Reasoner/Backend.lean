import Rulebook.OutputFile
import Rulebook.Reasoner.Error
import Rulebook.Rule
import Rulebook.Settings

namespace Rulebook

-- The values of one row of a relation.
abbrev Row := List String

-- An engine that reasons. Calls that change it give its new state even where they fail, and it
-- knows predicates by their engine names.
class Backend (β : Type) where
  -- Start with a description of the external sources.
  activate (config : String) : β → Except BackendError Unit × β
  -- Stop and forget everything that was loaded or derived.
  stop : β → β
  setLogLevel (level : LogLevel) : β → β
  setLogFile (path : Path) : β → Except BackendError Unit × β
  -- The arity of a predicate with an external source, unless the source is empty.
  predicateArity (predicate : String) : β → Except BackendError (Option Nat)
  addData (predicate : String) (rows : List Row) : β → Except BackendError Unit × β
  setRules (rules : List Rule) (strategy : HeadStrategy) : β → Except BackendError Unit × β
  -- Derive what follows; the answer tells whether everything was derived.
  materialize (skolem : Bool) (timeoutSeconds : Option Nat) : β → Except BackendError Bool × β
  -- The rows that agree with the ground terms.
  query (predicate : String) (terms : List Term) (nulls : Bool) : β →
    Except BackendError (List Row)
  -- Write the rows of a query to a file. The answer is what the file holds then.
  writeCsv (predicate : String) (terms : List Term) (nulls : Bool) (file : OutputFile) : β →
    Except BackendError String
  checkCyclic (notion : CyclicityNotion) : β → Except BackendError CyclicCheck

end Rulebook
