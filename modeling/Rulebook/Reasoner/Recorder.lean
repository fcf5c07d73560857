import Rulebook.Reasoner.Backend
import Rulebook.Sorted

namespace Rulebook

-- What a recorder answers, whatever it is given.
structure FixedAnswers where
  sourceArities : List (String × Nat) := []
  cyclicity : List (CyclicityNotion × CyclicCheck) := []
  -- whether a run with a timeout derives everything
  completes : Bool := true
  -- why runs fail, if they do
  failure : Option String := none
  deriving DecidableEq

-- An engine that derives nothing. It keeps what it is given and answers queries from the rows
-- that were loaded.
structure Recorder where
  answers : FixedAnswers := {}
  active : Bool := false
  config : Option String := none
  data : List (String × List Row) := []
  rules : List Rule := []
  strategy : HeadStrategy := .none
  logLevel : Option LogLevel := none
  logFile : Option Path := none
  runs : List (Bool × Option Nat) := []
  stops : Nat := 0
  deriving DecidableEq

namespace Recorder

-- A value matches a variable, and a ground term of that name.
def matchesTerm (value : String) (t : Term) : Bool :=
  t.isVariable || t.name = value

def matchesRow (terms : List Term) (row : Row) : Bool :=
  row.length = terms.length && (row.zip terms).all fun p => matchesTerm p.1 p.2

-- A predicate is known from data, from a source or from the head of a rule.
def knows (predicate : String) (r : Recorder) : Bool :=
  Sorted.contains predicate r.data || (r.answers.sourceArities.lookup predicate).isSome ||
    r.rules.any fun rule => rule.headPredicates.any (·.engineName = predicate)

def matching (predicate : String) (terms : List Term) (r : Recorder) :
    Except BackendError (List Row) :=
  if !r.active then .error .notStarted
  else if r.knows predicate then
    .ok (((Sorted.lookup predicate r.data).getD []).filter (matchesRow terms))
  else .error (.unknownPredicate predicate)

-- One line a row, the values separated by commas.
def csv (rows : List Row) : String :=
  String.join (rows.map fun row => ",".intercalate row ++ "\n")

def whenActive {α : Type} (r : Recorder) (a : α) (after : Recorder) :
    Except BackendError α × Recorder :=
  if r.active then (.ok a, after) else (.error .notStarted, r)

def activate (config : String) (r : Recorder) : Except BackendError Unit × Recorder :=
  if r.active then (.error .alreadyStarted, r)
  else (.ok (), { r with active := true, config := some config })

def stop (r : Recorder) : Recorder :=
  { r with active := false, data := [], rules := [], stops := r.stops + 1 }

def addData (predicate : String) (rows : List Row) (r : Recorder) :
    Except BackendError Unit × Recorder :=
  r.whenActive () { r with data := Sorted.alter (·.getD [] ++ rows) predicate r.data }

def setRules (rules : List Rule) (strategy : HeadStrategy) (r : Recorder) :
    Except BackendError Unit × Recorder :=
  r.whenActive () { r with rules := rules, strategy := strategy }

-- A run is recorded even if it fails. Without a timeout it always derives everything.
def materialize (skolem : Bool) (timeoutSeconds : Option Nat) (r : Recorder) :
    Except BackendError Bool × Recorder :=
  if !r.active then (.error .notStarted, r)
  else
    let after := { r with runs := r.runs ++ [(skolem, timeoutSeconds)] }
    match r.answers.failure with
    | some message => (.error (.materialization message), after)
    | none => (.ok (r.answers.completes || timeoutSeconds.isNone), after)

def predicateArity (predicate : String) (r : Recorder) : Except BackendError (Option Nat) :=
  if r.active then .ok (r.answers.sourceArities.lookup predicate) else .error .notStarted

def writeCsv (predicate : String) (terms : List Term) (file : OutputFile) (r : Recorder) :
    Except BackendError String :=
  match r.matching predicate terms with
  | .error e => .error e
  | .ok rows =>
    match file.refusal with
    | some reason => .error (.io reason)
    | none => .ok (csv rows)

-- What is not known to end is taken not to.
def checkCyclic (notion : CyclicityNotion) (r : Recorder) : Except BackendError CyclicCheck :=
  if r.active then .ok ((r.answers.cyclicity.lookup notion).getD .cyclic) else .error .notStarted

instance : Backend Recorder where
  activate := activate
  stop := stop
  setLogLevel level r := { r with logLevel := some level }
  setLogFile path r := (.ok (), { r with logFile := some path })
  predicateArity := predicateArity
  addData := addData
  setRules := setRules
  materialize := materialize
  query predicate terms _ := matching predicate terms
  writeCsv predicate terms _ := writeCsv predicate terms
  checkCyclic := checkCyclic

end Recorder

end Rulebook
