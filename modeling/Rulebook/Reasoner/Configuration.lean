import Rulebook.Reasoner.Lifecycle

namespace Rulebook.Reasoner

variable {β : Type} [Backend β]

def setAlgorithm (algorithm : Algorithm) (r : Reasoner β) : Reasoner β :=
  { r with settings := { r.settings with algorithm := algorithm } }

-- A timeout has to leave some time.
def setTimeout (seconds : Option Nat) (r : Reasoner β) : Except ReasonerError Unit × Reasoner β :=
  if seconds = some 0 then (.error .invalidTimeout, r)
  else (.ok (), { r with settings := { r.settings with timeoutSeconds := seconds } })

-- Rule heads are taken apart when the rules are loaded, so it is too late after that.
def setHeadStrategy (kb : KnowledgeBase) (strategy : HeadStrategy) (r : Reasoner β) :
    Except ReasonerError Unit × Reasoner β :=
  let r := r.observe kb
  match r.state with
  | .beforeLoading => (.ok (), { r with settings := { r.settings with headStrategy := strategy } })
  | _ =>
    (.error (r.refusal ("Rules cannot be rewritten after the reasoner has been loaded. " ++
      "Call reset() to undo loading and reasoning.")), r)

def setLogLevel (level : LogLevel) (r : Reasoner β) : Except ReasonerError Unit × Reasoner β :=
  match r.state with
  | .afterClosing => (.error (r.refusal "Setting log level is not allowed after closing."), r)
  | _ =>
    (.ok (),
      { r with
        settings := { r.settings with logLevel := level }
        backend := Backend.setLogLevel level r.backend })

def setLogFile (path : Path) (r : Reasoner β) : Except ReasonerError Unit × Reasoner β :=
  match r.state with
  | .afterClosing => (.error (r.refusal "Setting log file is not allowed after closing."), r)
  | _ =>
    match Backend.setLogFile path r.backend with
    | (.error e, b) => (.error (.ofBackend e), { r with backend := b })
    | (.ok (), b) => (.ok (), { r with backend := b })

-- A reasoner that nothing has been done with.
def new (b : β) : Reasoner β where
  backend := b

-- A new reasoner with settings. Only a timeout of zero is refused.
def configured (b : β) (settings : ReasonerSettings) : Except ReasonerError (Reasoner β) :=
  if settings.timeoutSeconds = some 0 then .error .invalidTimeout
  else
    .ok { (new b : Reasoner β) with
      settings := settings
      backend := Backend.setLogLevel settings.logLevel b }

end Rulebook.Reasoner
