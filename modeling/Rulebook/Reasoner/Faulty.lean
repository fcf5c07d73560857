import Rulebook.Reasoner.Backend

namespace Rulebook

-- The calls of an engine that can fail.
inductive BackendCall
  | activate
  | setLogFile
  | predicateArity
  | addData
  | setRules
  | materialize
  | query
  | writeCsv
  | checkCyclic
  deriving DecidableEq

-- An engine some of whose calls fail without doing anything.
structure Faulty (β : Type) where
  inner : β
  faults : List (BackendCall × BackendError) := []
  deriving DecidableEq

namespace Faulty

variable {α β : Type}

-- Make a call that changes the engine, unless it fails.
def change (call : BackendCall) (act : β → Except BackendError α × β) (b : Faulty β) :
    Except BackendError α × Faulty β :=
  match b.faults.lookup call with
  | some e => (.error e, b)
  | none => ((act b.inner).1, { b with inner := (act b.inner).2 })

-- Make a call that only looks at the engine, unless it fails.
def look (call : BackendCall) (act : β → Except BackendError α) (b : Faulty β) :
    Except BackendError α :=
  match b.faults.lookup call with
  | some e => .error e
  | none => act b.inner

instance [Backend β] : Backend (Faulty β) where
  activate config := change .activate (Backend.activate config)
  stop b := { b with inner := Backend.stop b.inner }
  setLogLevel level b := { b with inner := Backend.setLogLevel level b.inner }
  setLogFile path := change .setLogFile (Backend.setLogFile path)
  predicateArity predicate := look .predicateArity (Backend.predicateArity predicate)
  addData predicate rows := change .addData (Backend.addData predicate rows)
  setRules rules strategy := change .setRules (Backend.setRules rules strategy)
  materialize skolem timeout := change .materialize (Backend.materialize skolem timeout)
  query predicate terms nulls := look .query (Backend.query predicate terms nulls)
  writeCsv predicate terms nulls file :=
    look .writeCsv (Backend.writeCsv predicate terms nulls file)
  checkCyclic notion := look .checkCyclic (Backend.checkCyclic notion)

end Faulty

end Rulebook
