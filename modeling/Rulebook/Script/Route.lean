import Rulebook.Script.Expansion

namespace Rulebook.Script

-- A redirection whose words have been replaced by what they stand for.
inductive Route
  | file (stream : Nat) (opening : Opening) (path : String)
  | copy (stream source : Nat)
  | close (stream : Nat)
  -- a text in the script, whose parts have not been replaced
  | here (stream : Nat) (word : Word)

namespace Route

def stream : Route → Nat
  | file n _ _ | copy n _ | close n | here n _ => n

-- Only one digit or a dash tells where a stream is copied from.
def ofSource (stream : Nat) (source : String) : Work (Option Route) := do
  match source.toList with
  | ['-'] => return some (.close stream)
  | [c] =>
    if c.isDigit then return some (.copy stream (digitValue c))
    else
      failWith "Syntax error: Bad fd number"
      return none
  | _ =>
    failWith "Syntax error: Bad fd number"
    return none

def ofRedirection (run : RunOutput) : Redirection → Work (Option Route)
  | .file stream opening name => do
    let path ← wordText run name
    let keeps := (← get).option 'C'
    return some (.file stream (if opening = .create && !keeps then .write else opening) path)
  | .copy stream source => do
    let text ← wordText run source
    if ← isOn then ofSource stream text else return none
  | .here stream number => do
    let word := ((← get).texts.lookup number).getD []
    return some (.here stream word)

-- All words are replaced before anything is opened, but not the texts in the script.
def ofRedirections (run : RunOutput) : List Redirection → Work (List Route)
  | [] => return []
  | r :: rs => do
    match ← ofRedirection run r with
    | some route =>
      if ← isOn then return route :: (← ofRedirections run rs) else return []
    | none => return []

-- What is said where a file cannot be opened.
def fault (opening : Opening) (path : String) (e : Refusal) : String :=
  let reads := opening = .read
  let reason :=
    if e = .noEntry || e = .notFolder then
      if reads then "No such file" else "Directory nonexistent"
    else e.text
  (if reads then "cannot open " else "cannot create ") ++ path ++ ": " ++ reason

def refused (text : String) : Work Bool := do
  complain text
  return false

-- Lead a stream to where a route says. It is complained about if that cannot be done. Where the
-- stream is put aside, it is closed by then.
def take (run : RunOutput) (putsAside : Bool) : Route → Work Bool
  | .file stream opening path => do
    match ← openPath path opening with
    | .ok o =>
      modify (·.setStream stream o)
      return true
    | .error e => refused (fault opening path e)
  | .copy stream source => do
    match (← get).opened source with
    | .ok o =>
      modify (·.setStream stream o)
      return true
    | .error e =>
      if putsAside then modify (·.closeStream stream)
      refused (toString source ++ ": " ++ e.text)
  | .close stream => do
    modify (·.closeStream stream)
    return true
  | .here stream word => do
    let (n, m) := (← get).machine.newPipe
    setMachine m
    let source ← openDevice (.pipe n) .read
    let target ← openDevice (.pipe n) .write
    -- both ends are there while the text is made, and stay when that fails
    let first := (← get).freeStream 0
    modify (·.setStream first source)
    let second := (← get).freeStream first
    modify (·.setStream second target)
    let text ← wordText run word
    if (← get).flow = .failed then
      setFlow .on
      return false
    else
      setMachine ((← get).machine.pushPipe n text)
      modify fun s => ((s.closeStream first).closeStream second).setStream stream source
      return true

-- Lead streams elsewhere, one after the other, until that cannot be done. Some streams are not put
-- aside, as none is when that is not asked for.
def takeAll (run : RunOutput) (putsAside : Bool) (others : List Nat) : List Route → Work Bool
  | [] => return true
  | r :: rs => do
    if ← take run (putsAside && r.stream ∉ others) r then
      takeAll run putsAside (r.stream :: others) rs
    else return false

-- Nothing else leads to what was opened.
def release (kept : List (Nat × Opened)) (m : Machine) (o : Opened) : Machine :=
  if kept.any (·.2.number = o.number) then m
  else
    match o.device with
    | .pipe n =>
      if o.writes || kept.any (·.2.device = .pipe n) then m else m.dropPipe n
    | _ => m.forget o

-- Lead streams back to where they led before.
def giveBack (before : List (Nat × Opened)) (routes : List Route) : Work Unit := do
  let s ← get
  let streams := routes.foldl
    (fun l r =>
      match before.lookup r.stream with
      | some o => Machine.put r.stream o l
      | none => Machine.drop r.stream l)
    s.streams
  let old := routes.filterMap fun r => s.streams.lookup r.stream
  let machine := if s.jobs.isEmpty then old.foldl (release streams) s.machine else s.machine
  set { s with streams := streams, machine := machine }

-- Do something while streams lead elsewhere, if they can be led there.
def around (run : RunOutput) (routes : List Route) (act otherwise : Work Unit) : Work Unit := do
  if routes.isEmpty then act
  else
    let before := (← get).streams
    if ← takeAll run true [] routes then
      act
      giveBack before routes
    else
      giveBack before routes
      otherwise

end Route

end Rulebook.Script
