import Rulebook.Script.Octets

namespace Rulebook.Script

-- Why the machine refuses something.
inductive Refusal
  | noEntry
  | notFolder
  | isFolder
  | present
  | notEmpty
  | denied
  | badStream
  | noSpace
  | brokenPipe
  | noDevice
  | nameTooLong
  | notExecutable
  deriving DecidableEq

def Refusal.text : Refusal → String
  | noEntry => "No such file or directory"
  | notFolder => "Not a directory"
  | isFolder => "Is a directory"
  | present => "File exists"
  | notEmpty => "Directory not empty"
  | denied => "Permission denied"
  | badStream => "Bad file descriptor"
  | noSpace => "No space left on device"
  | brokenPipe => "Broken pipe"
  | noDevice => "No such device or address"
  | nameTooLong => "File name too long"
  | notExecutable => "Exec format error"

-- What a path leads to.
inductive Entry
  | folder
  | file (content : String) (executable : Bool)
  deriving DecidableEq

-- Where bytes come from or go to.
inductive Device
  | nothing
  | full
  | zeros
  | pipe (number : Nat)
  | file (path : String)
  | folder (path : String)
  deriving DecidableEq

-- Something that was opened. Its copies share the position, which is known by the number.
structure Opened where
  number : Nat
  device : Device
  reads : Bool := true
  writes : Bool := true
  appends : Bool := false
  deriving DecidableEq

-- A pipe with what is in it, the latest last and in pieces.
structure Pipe where
  front : List Char := []
  arrived : List String := []
  -- how much has ever gone into it
  size : Nat := 0
  -- whether somebody waits for its end to read it
  bounded : Bool := true
  -- whether a writer was stopped because too much was in it
  cut : Bool := false
  -- whether somebody wrote into it before having read all of another one that was cut
  early : Bool := false
  -- whether it is read by somebody outside who takes lines and gives up at the first one that is no
  -- text, with what there is of the last line
  byLine : Bool := false
  line : List Char := []
  -- how often something has been written since there was a line that is no text
  ignored : Option Nat := none
  deserted : Bool := false

def Pipe.isEmpty (p : Pipe) : Bool :=
  p.front.isEmpty && p.arrived.isEmpty

-- Somebody who reads line by line sees what comes next.
def Pipe.seen (p : Pipe) (text : String) : Pipe :=
  match p.ignored with
  | some n => { p with ignored := some (n + 1), deserted := p.deserted || n > patience }
  | none =>
    let lines := (p.line.reverse ++ text.toList).splitOn '\n'
    if lines.dropLast.all fun l => (text? (String.ofList l)).isSome then
      { p with line := (lines.getLast?.getD []).reverse }
    else { p with line := [], ignored := some 0 }
where
  -- A reader is not quicker than so many writes.
  patience : Nat := 50

-- Writers that nobody reads from in time are stopped when so much is in a pipe. When that was not
-- enough for a reader, everything is tried again with more room, and with much more if the last
-- reader still needs it.
def firstRoom : Nat := 20000

def moreRoom : Nat := 400000

def lastRoom : Nat := 8000000

-- What all processes share.
structure Machine where
  entries : List (String × Entry) := []
  pipes : List (Nat × Pipe) := []
  positions : List (Nat × Nat) := []
  -- a number that is not in use
  next : Nat := 1000
  room : Nat := firstRoom
  -- whether somebody has read all of a pipe whose writer was stopped, and whether the last one of a
  -- row of commands has
  starved : Bool := false
  unfed : Bool := false
  -- time in thousandths of a second
  clock : Nat := 0
  -- processes that have not ended, and signals that they have not got yet
  alive : List Nat := []
  signals : List (Nat × Nat) := []
  -- what the programs on this machine are called
  programs : List String := []

namespace Machine

-- Replace the value of a key.
def put {α β : Type} [BEq α] (key : α) (value : β) : List (α × β) → List (α × β)
  | [] => [(key, value)]
  | (k, v) :: l => if k == key then (key, value) :: l else (k, v) :: put key value l

def drop {α β : Type} [BEq α] (key : α) : List (α × β) → List (α × β)
  | [] => []
  | (k, v) :: l => if k == key then l else (k, v) :: drop key l

-- Paths

-- Folders below the root that are called by shorter names as well.
def links : List (String × String) :=
  [("bin", "usr/bin"), ("lib", "usr/lib"), ("lib64", "usr/lib64"), ("sbin", "usr/sbin")]

-- A name after the names on the way to a folder, the last one first.
def step (up : List String) (name : String) : List String :=
  if name = "" || name = "." then up
  else if name = ".." then up.tail
  else if up.isEmpty && (links.lookup name).isSome then [name, "usr"]
  else name :: up

-- The names on the way from the root to a path. Idle parts do not count, and dots lead up.
def steps (start : List String) (path : String) : List String :=
  let parts := (path.toList.splitOn '/').map String.ofList
  (parts.foldl step (if path.startsWith "/" then [] else start.reverse)).reverse

def ofSteps (steps : List String) : String :=
  "/" ++ "/".intercalate steps

-- The path of a folder as it is told: names are not replaced by others, and two slashes in front
-- stay.
def told (folder path : String) : String :=
  let start := if path.startsWith "/" then path else folder
  let front := if start.startsWith "//" && !start.startsWith "///" then "//" else "/"
  let parts := ((start.toList ++ '/' :: if path.startsWith "/" then [] else path.toList).splitOn
    '/').map String.ofList
  let up := parts.foldl
    (fun up s => if s = "" || s = "." then up else if s = ".." then up.tail else s :: up) []
  front ++ "/".intercalate up.reverse

-- The path that a path stands for in a folder.
def resolve (folder path : String) : String :=
  ofSteps (steps (steps [] folder) path)

-- The folder of a path without idle parts, and the name in it.
def parent (path : String) : String :=
  ofSteps (steps [] path).dropLast

def baseName (path : String) : String :=
  (steps [] path).getLastD "/"

def programFolders : List String :=
  ["/usr/bin"]

def folders : List String :=
  ["/", "/boot", "/dev", "/dev/fd", "/dev/pts", "/dev/shm", "/etc", "/home", "/media", "/mnt",
   "/opt", "/proc", "/root", "/run", "/srv", "/sys", "/tmp", "/usr", "/usr/bin", "/usr/lib",
   "/usr/lib64", "/usr/local", "/usr/local/bin", "/usr/sbin", "/usr/share", "/var", "/var/tmp",
   "/work"]

def isProgram (m : Machine) (path : String) : Bool :=
  parent path ∈ programFolders && baseName path ∈ m.programs

def devices : List (String × Device) :=
  [("/dev/null", .nothing), ("/dev/full", .full), ("/dev/zero", .zeros), ("/dev/random", .zeros),
   ("/dev/urandom", .zeros)]

-- What there is without being a file or a folder. Nobody can run it.
def nodes : List String :=
  devices.map (·.1) ++ ["/dev/ptmx", "/dev/stderr", "/dev/stdin", "/dev/stdout", "/dev/tty"]

-- What a path without idle parts leads to. Nodes count as files without content.
def entry? (m : Machine) (path : String) : Option Entry :=
  match m.entries.lookup path with
  | some e => some e
  | none =>
    if path ∈ folders then some .folder
    else if m.isProgram path then some (.file "" true)
    else if path ∈ nodes then some (.file "" false)
    else none

-- Go on by the names on a way. All but the last one must lead to folders.
def walk (m : Machine) : (up names : List String) → Except Refusal (List String)
  | up, [] => .ok up
  | up, [name] => .ok (step up name)
  | up, name :: rest =>
    match m.entry? (ofSteps (step up name).reverse) with
    | some .folder => m.walk (step up name) rest
    | some (.file _ _) => .error .notFolder
    | none => .error (if name.length > 255 then .nameTooLong else .noEntry)

-- Whether a path leads through folders, and what it leads to.
def find (m : Machine) (folder path : String) : Except Refusal (String × Option Entry) := do
  if path = "" then throw .noEntry
  let parts := (path.toList.splitOn '/').map String.ofList
  let parts := (parts.reverse.dropWhile (· = "")).reverse
  let up ← m.walk (if path.startsWith "/" then [] else (steps [] folder).reverse) parts
  let full := ofSteps up.reverse
  match m.entry? full with
  | none =>
    if up.any (·.length > 255) then throw .nameTooLong
    return (full, none)
  | some (.file content executable) =>
    if path.endsWith "/" then throw .notFolder
    return (full, some (.file content executable))
  | some .folder => return (full, some .folder)

def setEntry (path : String) (e : Entry) (m : Machine) : Machine :=
  { m with entries := put path e m.entries }

def removeEntry (path : String) (m : Machine) : Machine :=
  { m with entries := drop path m.entries }

-- The entries right below a folder, by name.
def children (m : Machine) (folder : String) : List String :=
  let known := folders ++ nodes ++ m.entries.map (·.1) ++
    if folder ∈ programFolders then m.programs.map ((folder ++ "/") ++ ·) else []
  let names := (known.filter fun p => p ≠ "/" && parent p = folder).map baseName
  let names := if folder = "/" then links.map (·.1) ++ names else names
  (names.mergeSort (fun a b => decide (a ≤ b))).eraseDups

def fresh (m : Machine) : Nat × Machine :=
  (m.next, { m with next := m.next + 1 })

-- Pipes

def newPipe (m : Machine) : Nat × Machine :=
  let (n, m) := m.fresh
  (n, { m with pipes := (n, {}) :: m.pipes })

def pipe (m : Machine) (n : Nat) : Pipe :=
  (m.pipes.lookup n).getD {}

def dropPipe (n : Nat) (m : Machine) : Machine :=
  { m with pipes := drop n m.pipes }

-- Leave a pipe that was read, with the pipe that was written to instead. If something was missing
-- in the first one, it is missing in the second one too, maybe not only at its end.
def leavePipe (n : Nat) (next : Option Nat) (m : Machine) : Machine :=
  let p := m.pipe n
  let m := m.dropPipe n
  if p.cut && p.isEmpty then
    match next with
    | some k =>
      let q := m.pipe k
      { m with pipes := put k { q with cut := true } m.pipes, starved := m.starved || !q.early }
    | none => { m with starved := true, unfed := true }
  else m

def pushPipe (n : Nat) (text : String) (m : Machine) : Machine :=
  let p := m.pipe n
  let p := if p.byLine then p.seen text else p
  let isEarly := m.pipes.any fun (_, q) => q.cut && !q.isEmpty
  let p := { p with
    arrived := text :: p.arrived, size := p.size + text.length, early := p.early || isEarly }
  { m with pipes := put n p m.pipes }

def setByLine (n : Nat) (byLine : Bool) (m : Machine) : Machine :=
  { m with pipes := put n { m.pipe n with byLine := byLine } m.pipes }

-- Others get their turn, and those who have given up go away.
def letOthers (m : Machine) : Machine :=
  { m with pipes := m.pipes.map fun (n, p) => (n, { p with deserted := p.ignored.isSome }) }

-- Remember that a writer was stopped.
def cutPipe (o : Opened) (m : Machine) : Machine :=
  match o.device with
  | .pipe n => { m with pipes := put n { m.pipe n with cut := true } m.pipes }
  | _ => m

-- Remember that a reader did not need all that it took.
def satisfy (o : Opened) (m : Machine) : Machine :=
  match o.device with
  | .pipe n => { m with pipes := put n { m.pipe n with cut := false } m.pipes }
  | _ => m

-- Tell whether somebody waits for the end of a pipe to read it.
def setBound (n : Nat) (bounded : Bool) (m : Machine) : Machine :=
  { m with pipes := put n { m.pipe n with bounded := bounded } m.pipes }

-- All that is in a pipe.
def pipeContent (m : Machine) (n : Nat) : List Char :=
  let p := m.pipe n
  match p.arrived with
  | [] => p.front
  | [s] => if p.front.isEmpty then s.toList else p.front ++ s.toList
  | ss => p.front ++ (String.join ss.reverse).toList

def setPipe (n : Nat) (content : List Char) (m : Machine) : Machine :=
  let p := { m.pipe n with front := content, arrived := [] }
  { m with pipes := put n p m.pipes }

-- Files

def position (m : Machine) (o : Opened) : Nat :=
  (m.positions.lookup o.number).getD 0

def setPosition (o : Opened) (n : Nat) (m : Machine) : Machine :=
  { m with positions := put o.number n m.positions }

def forget (o : Opened) (m : Machine) : Machine :=
  { m with positions := drop o.number m.positions }

def content (m : Machine) (path : String) : String :=
  match m.entries.lookup path with
  | some (.file s _) => s
  | _ => ""

-- So many zeros stand for as many as anybody reads.
def endless : Nat := 1000000

-- What has not been read of something that was opened.
def unread (m : Machine) (o : Opened) : Except Refusal (List Char) :=
  if !o.reads then .error .badStream
  else
    match o.device with
    | .nothing => .ok []
    | .full | .zeros => .ok (List.replicate endless '\x00')
    | .pipe n => .ok (m.pipeContent n)
    | .file path => .ok ((m.content path).toList.drop (m.position o))
    | .folder _ => .error .isFolder

-- Go on after so much of what had not been read, with the rest of it.
def advance (o : Opened) (count : Nat) (rest : List Char) (m : Machine) : Machine :=
  match o.device with
  | .pipe n => m.setPipe n rest
  | .file _ => if count = 0 then m else m.setPosition o (m.position o + count)
  | _ => m

-- Put bytes into a text at a place. What is missing before it is filled with zeros.
def overwrite (old : String) (place : Nat) (new : String) : String :=
  if place = old.length then old ++ new
  else
    let cs := old.toList
    let before := cs.take place ++ List.replicate (place - cs.length) '\x00'
    String.ofList (before ++ new.toList ++ cs.drop (place + new.length))

def write (o : Opened) (text : String) (m : Machine) : Except Refusal Machine :=
  if !o.writes then .error .badStream
  else
    match o.device with
    | .nothing | .zeros => .ok m
    | .full => if text.isEmpty then .ok m else .error .noSpace
    | .folder _ => .error .isFolder
    | .pipe n =>
      let p := m.pipe n
      if p.deserted || p.bounded && p.size > m.room then .error .brokenPipe
      else .ok (m.pushPipe n text)
    | .file path =>
      let old := m.content path
      let place := if o.appends then old.length else m.position o
      let executable := match m.entries.lookup path with
        | some (.file _ x) => x
        | _ => false
      .ok ((m.setEntry path (.file (overwrite old place text) executable)).setPosition o
        (place + text.length))

end Machine

end Rulebook.Script
