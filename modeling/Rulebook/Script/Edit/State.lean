import Rulebook.Script.Edit.Program
import Rulebook.Script.Shell

namespace Rulebook.Script.Edit

-- What is known while lines are edited.

-- A line of the input without its end, and whether it has one.
structure Line where
  text : String
  ended : Bool
  file : String

-- The lines of a file.
def linesWithin (stop : Char) (file text : String) : List Line :=
  let parts := (text.toList.splitOn stop).map String.ofList
  parts.dropLast.map (⟨·, true, file⟩) ++
    (parts.getLast?.toList.filter (· ≠ "")).map (⟨·, false, file⟩)

structure Settings where
  silent : Bool := false
  -- what ends lines
  stop : Char := '\n'
  -- how wide lines are that are shown
  width : Nat := 70
  -- whether what is written replaces the file
  inPlace : Bool := false
  -- where the script ends, as complaints about expressions tell it while it runs
  place : String := ""

-- What follows the line when it is done.
inductive Addition
  | text (s : String)
  | file (name : String)

-- Why no more commands are run.
inductive Stop
  | left (status : Nat)
  | failed (message : String) (status : Nat)
  -- nobody reads what is written
  | halted
  -- no end is known
  | endless

structure State where
  input : List Line := []
  number : Nat := 0
  fileName : String := "-"
  -- the line that is edited, and whether it is to end
  space : String := ""
  ended : Bool := true
  -- the line that is kept, and whether it is to end
  hold : String := ""
  holdEnded : Bool := true
  replaced : Bool := false
  lastUsed : Option Search := none
  -- the ranges that have started, with the line where they end if that is known, and those that
  -- have ended
  ranges : List (Nat × Option Nat) := []
  closed : List Nat := []
  queue : List Addition := []
  -- what has not been written yet, the latest piece first
  output : List String := []
  -- the new content of the file, the latest piece first
  edited : List String := []
  -- the outputs whose last line lacks its end
  unended : List String := []
  -- what is left of files that are read line by line
  sources : List (String × List Line) := []

abbrev Act := ExceptT Stop (StateT State Work)

def onShell {α : Type} (act : Work α) : Act α :=
  liftM (m := StateT State Work) (liftM act)

-- Writing. The usual output has no name.

def put (settings : Settings) (name text : String) : Act Unit := do
  if name = "" && settings.inPlace then modify fun s => { s with edited := text :: s.edited }
  else if name = "" || name = "/dev/stdout" then
    modify fun s => { s with output := text :: s.output }
  else if name = "/dev/stderr" then
    let _ ← onShell (emit 2 text)
  else
    let _ ← onShell (writeNamed name text .append)
  if !(← onShell get).isOn then throw .halted

-- End the last line of an output if it lacks its end.
def endLine (settings : Settings) (name : String) : Act Unit := do
  if name ∈ (← get).unended then
    modify fun s => { s with unended := s.unended.filter (· ≠ name) }
    put settings name (String.singleton settings.stop)

def putLine (settings : Settings) (name text : String) (ended : Bool) : Act Unit := do
  endLine settings name
  put settings name (if ended then text.push settings.stop else text)
  if !ended then modify fun s => { s with unended := name :: s.unended }

def putSpace (settings : Settings) (name : String) : Act Unit := do
  let s ← get
  putLine settings name s.space s.ended

-- A text of whole lines.
def putText (settings : Settings) (text : String) : Act Unit := do
  if text ≠ "" then putLine settings "" (String.ofList text.toList.dropLast) true

-- The lines up to the first end of a line.
def firstLine (settings : Settings) (text : String) : Option (String × String) :=
  match text.toList.span (· ≠ settings.stop) with
  | (first, _ :: rest) => some (String.ofList first, String.ofList rest)
  | _ => none

-- What was put off is written.
def flush : Act Unit := do
  let s ← get
  set { s with output := [] }
  onShell (print (String.join s.output.reverse))

-- Write what follows the line. Files that are not there count as empty.
def putAdditions (settings : Settings) : Act Unit := do
  let queue := (← get).queue
  modify fun s => { s with queue := [] }
  queue.forM fun a => do
    endLine settings ""
    match a with
    | .text s => put settings "" s
    | .file name =>
      match ← onShell (readNamed name) with
      | .ok text => put settings "" text
      | .error .isFolder =>
        throw (.failed ("read error on " ++ name ++ ": " ++ Refusal.isFolder.text) 4)
      | .error _ => pure ()

-- Reading

-- Go on to the next line of the input, if there is one, and join it to the last one.
def nextLine? (joins : Bool) (settings : Settings) : Act Bool := do
  let s ← get
  match s.input with
  | [] => return false
  | l :: ls =>
    let space := if joins then s.space.push settings.stop ++ l.text else l.text
    set { s with
      input := ls, number := s.number + 1, fileName := l.file, space := space, ended := l.ended }
    return true

-- The next line of a file, or of the rest of the input.
def nextOf? (settings : Settings) (file : String) : Act (Option Line) := do
  let s ← get
  let ofInput := file = "/dev/stdin" && s.input.any (·.file = "-")
  let lines ←
    match if ofInput then some s.input else s.sources.lookup file with
    | some ls => pure ls
    | none =>
      match ← onShell (readNamed file) with
      | .ok text => pure (linesWithin settings.stop file text)
      | .error .isFolder =>
        throw (.failed ("read error on " ++ file ++ ": " ++ Refusal.isFolder.text) 4)
      | .error _ => pure []
  if ofInput then modify fun s => { s with input := lines.tail }
  else modify fun s => { s with sources := Machine.put file lines.tail s.sources }
  return lines.head?

-- Selecting lines

def subject (settings : Settings) (search : Search) (s : State) : Regex.Subject :=
  { chars := s.space.toList.toArray, ignoresCase := search.ignoresCase,
    manyLines := search.manyLines && settings.stop = '\n' }

-- The expression that is meant, which is then the last one used.
def resolve (settings : Settings) (search : Search) : Act (Regex × Search) := do
  match search.expression with
  | some r =>
    modify fun s => { s with lastUsed := some search }
    return (r, search)
  | none =>
    match (← get).lastUsed with
    | some last => return (last.expression.getD .empty, last)
    | none => throw (.failed (settings.place ++ "no previous regular expression") 1)

def isAt (settings : Settings) (a : Address) : Act Bool := do
  let s ← get
  match a with
  | .line n => return s.number = n
  | .last => return s.input.isEmpty
  | .step first distance => return s.number ≥ first && (s.number - first) % distance = 0
  | .search search =>
    let (r, search) ← resolve settings search
    return r.isIn (subject settings search s)

def startRange (n : Nat) (stop : Option Nat) : Act Unit :=
  modify fun s => { s with ranges := (n, stop) :: s.ranges.filter (·.1 ≠ n) }

-- A range that ended does not start with the number of a line again.
def stopRange (n : Nat) : Act Unit :=
  modify fun s => { s with ranges := s.ranges.filter (·.1 ≠ n), closed := n :: s.closed }

-- The line where a range ends that starts at a line, if it is known.
def RangeEnd.known? (line : Nat) : RangeEnd → Option Nat
  | .address (.line k) => some k
  | .after k => some (line + k)
  | .multiple 0 => some line
  | .multiple k => some ((line / k + 1) * k)
  | _ => none

-- Whether the line is in a range that has started. Where the last line was passed over, the next
-- one takes its place unless the last one was given by its number.
def isInside (settings : Settings) (n : Nat) (last : RangeEnd) (stop : Option Nat) : Act Bool := do
  match stop, last with
  | some k, last =>
    let line := (← get).number
    if line ≥ k then stopRange n
    return line ≤ k || !(last matches .address _)
  | none, .address a =>
    if ← isAt settings a then stopRange n
    return true
  | none, _ => return true

-- Start a range at the line. Whether the line is in it, which may be behind the line where the
-- range should have started.
def enterRange (n : Nat) (isLate : Bool) (last : RangeEnd) : Act Bool := do
  let s ← get
  match last.known? s.number with
  | some k =>
    if k > s.number then startRange n (some k) else stopRange n
    return !isLate || s.number ≤ k
  | none =>
    startRange n none
    return true

-- Whether the line is selected for the command with a number.
def isSelected (settings : Settings) (n : Nat) : Selector → Act Bool
  | .all => return true
  | .one a => isAt settings a
  | .range first last => do
    let s ← get
    match s.ranges.lookup n with
    | some stop => isInside settings n last stop
    | none =>
      match first with
      | none =>
        -- a range before the first line starts once
        if n ∈ s.closed then return false
        startRange n none
        isInside settings n last none
      | some (.line k) =>
        if n ∈ s.closed || s.number < k then return false else enterRange n (k < s.number) last
      | some a => if ← isAt settings a then enterRange n false last else return false

end Rulebook.Script.Edit
