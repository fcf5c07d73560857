import Rulebook.Script.Edit.State
import Rulebook.Script.Tool.Starting

namespace Rulebook.Script.Edit

-- What scripts do to lines.

-- Replacing

-- The letters of a piece of a replacement, where the first one may be changed in its own way.
def cased (casing : Casing) (once : Option Casing) : List Char → List Char
  | [] => []
  | c :: cs => (once.getD casing).change c :: cs.map casing.change

-- The text of a replacement for a stretch that was found.
def replacementText (t : Regex.Subject) (start : Nat) (found : Regex.State) :
    (casing : Casing) → (once : Option Casing) → List Part → List Char
  | _, _, [] => []
  | _, _, .casing c :: ps => replacementText t start found c none ps
  | casing, _, .nextCasing c :: ps => replacementText t start found casing (some c) ps
  | casing, once, .text c :: ps =>
    cased casing once [c] ++ replacementText t start found casing none ps
  | casing, once, .group n :: ps =>
    let place := if n = 0 then some (start, found.place) else found.groups.lookup n
    let cs := match place with
      | some (i, j) => (t.slice i j).toList
      | none => []
    cased casing once cs ++
      replacementText t start found casing (if cs.isEmpty then once else none) ps

-- Replace stretches from a place on. An empty stretch right behind another one does not count. The
-- pieces are the last one first.
def replaceFrom (sub : Substitution) (r : Regex) (t : Regex.Subject) :
    (fuel start count : Nat) → (behind : Option Nat) → (pieces : List String) → (done : Bool) →
    List String × Bool
  | 0, _, _, _, pieces, done => (pieces, done)
  | fuel + 1, start, count, behind, pieces, done =>
    let size := t.chars.size
    match if start > size then none else r.find? t start with
    | none => (t.slice start size :: pieces, done)
    | some (i, found) =>
      let isEmpty := found.place = i
      if isEmpty && behind = some i then
        if i ≥ size then (t.slice start size :: pieces, done)
        else replaceFrom sub r t fuel (i + 1) count none (t.slice start (i + 1) :: pieces) done
      else
        let skipped := count < sub.count.getD 1
        let text := if skipped then t.slice i found.place
          else String.ofList (replacementText t i found .same none sub.replacement)
        let pieces := text :: t.slice start i :: pieces
        if !skipped && !sub.all then (t.slice found.place size :: pieces, true)
        else if isEmpty then
          if i ≥ size then (pieces, done || !skipped)
          else
            replaceFrom sub r t fuel (i + 1) (count + 1) none (t.slice i (i + 1) :: pieces)
              (done || !skipped)
        else
          replaceFrom sub r t fuel found.place (count + 1) (some found.place) pieces
            (done || !skipped)

-- What a command for a shell writes.
def outputOf (start : RunProgram) (command : String) : Act String := do
  let (text, _) ← onShell (pipeCommand start { catches := true } command)
  if !(← onShell get).isOn then throw .halted
  return text

-- The line becomes what it writes as a command. The last end of a line does not count.
def runSpace (start : RunProgram) (settings : Settings) : Act Unit := do
  let text ← outputOf start (← get).space
  let stop := String.singleton settings.stop
  modify fun s => { s with
    space := if text.endsWith stop then String.ofList text.toList.dropLast else text }

def substitute (start : RunProgram) (settings : Settings) (sub : Substitution) : Act Unit := do
  let (r, search) ← resolve settings sub.search
  if r.groupCount < sub.groups then
    throw (.failed (settings.place ++ "invalid reference \\" ++ toString sub.groups ++
      " on `s' command's RHS") 1)
  let t := subject settings search (← get)
  let (pieces, done) := replaceFrom sub r t (2 * t.chars.size + 4) 0 1 none [] false
  if done then
    modify fun s => { s with space := String.join pieces.reverse, replaced := true }
    if sub.runs then runSpace start settings
    if sub.prints then putSpace settings ""
    match sub.file with
    | some name => putSpace settings name
    | none => return

-- Showing

def shown (c : Char) : String :=
  if c = '\\' then "\\\\"
  else
    match [('\x07', "\\a"), ('\x08', "\\b"), ('\x0c', "\\f"), ('\n', "\\n"), ('\r', "\\r"),
        ('\t', "\\t"), ('\x0b', "\\v")].lookup c with
    | some t => t
    | none =>
      if ' ' ≤ c && c ≤ '~' then String.singleton c
      else
        let ds := digits 8 c.toNat
        "\\" ++ String.ofList (List.replicate (3 - ds.length) '0') ++ ds

-- A line in which everything is visible. It is broken before it gets too wide.
def visible (width : Nat) (cs : List Char) : String :=
  let (pieces, _) := cs.foldl
    (fun (pieces, sofar) c =>
      let t := shown c
      if width > 0 && sofar + t.length > width - 1 then (t :: "\\\n" :: pieces, t.length)
      else (t :: pieces, sofar + t.length))
    (([] : List String), 0)
  String.join pieces.reverse ++ "$"

-- Commands

-- What happens after a command.
inductive Next
  | command (n : Nat)
  | lineEnd
  -- the line is not written
  | nextLine
  -- the script starts again without a new line
  | again
  deriving DecidableEq

-- A command that is just its letter.
def runSimple (settings : Settings) (letter : Char) (on : Next) : Act Next := do
  let s ← get
  match letter with
  | 'd' => return .nextLine
  | 'D' =>
    match firstLine settings s.space with
    | none => return .nextLine
    | some (_, rest) =>
      set { s with space := rest }
      return .again
  | 'p' => putSpace settings ""
  | 'P' =>
    match firstLine settings s.space with
    | none => putSpace settings ""
    | some (first, _) => putLine settings "" first true
  | 'n' =>
    if !settings.silent then putSpace settings ""
    if s.input.isEmpty then return .nextLine
    putAdditions settings
    let _ ← nextLine? false settings
  | 'N' =>
    if s.input.isEmpty then
      if !settings.silent then putSpace settings ""
      return .nextLine
    putAdditions settings
    let _ ← nextLine? true settings
  | 'g' => set { s with space := s.hold, ended := s.holdEnded }
  | 'G' => set { s with space := s.space.push settings.stop ++ s.hold, ended := s.holdEnded }
  | 'h' => set { s with hold := s.space, holdEnded := s.ended }
  | 'H' => set { s with hold := s.hold.push settings.stop ++ s.space, holdEnded := s.ended }
  | 'x' =>
    set { s with space := s.hold, ended := s.holdEnded, hold := s.space, holdEnded := s.ended }
  | '=' => putLine settings "" (toString s.number) true
  | 'z' => set { s with space := "" }
  | 'F' => putLine settings "" s.fileName true
  | c => throw (.failed ("INTERNAL ERROR: Bad cmd " ++ String.singleton c) 4)
  return on

-- Run the command with a number on the line.
def runAction (start : RunProgram) (settings : Settings) (cs : Commands) (n : Nat) (c : Command) :
    Act Next := do
  let on : Next := .command (n + 1)
  let s ← get
  match c.action with
  | .block _ | .label _ => return on
  | .branch label => return .command (cs.target label)
  | .branchIfReplaced label =>
    set { s with replaced := false }
    return if s.replaced then .command (cs.target label) else on
  | .branchUnlessReplaced label =>
    set { s with replaced := false }
    return if s.replaced then on else .command (cs.target label)
  | .leave how status =>
    if how = .normally then
      if !settings.silent then putSpace settings ""
      endLine settings ""
      putAdditions settings
    throw (.left status)
  | .substitute sub =>
    substitute start settings sub
    return on
  | .translate pairs =>
    set { s with space := s.space.map fun c => (pairs.lookup c).getD c }
    return on
  | .append text =>
    set { s with queue := s.queue ++ [Addition.text text] }
    return on
  | .insert text =>
    putText settings text
    return on
  | .change text =>
    if c.negated || (s.ranges.lookup n).isNone then putText settings text
    return .nextLine
  | .run command =>
    if command = "" then runSpace start settings
    else
      endLine settings ""
      put settings "" (← outputOf start command)
    return on
  | .readFile file =>
    set { s with queue := s.queue ++ [Addition.file file] }
    return on
  | .readLine file =>
    match ← nextOf? settings file with
    | some l =>
      let text := if l.ended then l.text.push settings.stop else l.text
      modify fun s => { s with queue := s.queue ++ [Addition.text text] }
    | none => pure ()
    return on
  | .writeFile file =>
    putSpace settings file
    return on
  | .writeLine file =>
    match firstLine settings s.space with
    | none => putSpace settings file
    | some (first, _) => putLine settings file first true
    return on
  | .display width =>
    putLine settings "" (visible (width.getD settings.width) s.space.toList) true
    return on
  | .simple letter => runSimple settings letter on

-- Run commands on the line from one on. No script that ends runs so many.
def runFrom (start : RunProgram) (settings : Settings) (cs : Commands) : (fuel n : Nat) → Act Next
  | 0, _ => throw .endless
  | fuel + 1, n => do
    match cs[n]? with
    | none => return .lineEnd
    | some c =>
      if (← isSelected settings n c.selector) == c.negated then
        match c.action with
        | .block stop => runFrom start settings cs fuel stop
        | _ => runFrom start settings cs fuel (n + 1)
      else
        match ← runAction start settings cs n c with
        | .command n => runFrom start settings cs fuel n
        | other => return other

def patience : Nat := 100000

-- Run commands on every line.
def runLines (start : RunProgram) (settings : Settings) (cs : Commands) :
    (fuel : Nat) → (again : Bool) → Act Unit
  | 0, _ => throw .endless
  | fuel + 1, again => do
    let started ←
      if again then pure true
      else
        modify fun s => { s with replaced := false }
        nextLine? false settings
    if started then
      let after ← runFrom start settings cs patience 0
      if after = .lineEnd && !settings.silent then putSpace settings ""
      putAdditions settings
      runLines start settings cs fuel (after = .again)

-- Edit the lines of files from the start.
def runFiles (start : RunProgram) (settings : Settings) (cs : Commands) (lines : List Line) :
    Act Unit := do
  modify fun s =>
    { input := lines, lastUsed := s.lastUsed, output := s.output, unended := s.unended }
  runLines start settings cs (2 * lines.length + patience) false

end Rulebook.Script.Edit
