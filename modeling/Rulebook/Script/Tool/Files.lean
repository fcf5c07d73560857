import Rulebook.Script.Tool.Option

namespace Rulebook.Script

-- Programs that list, make, move and remove files and folders.

namespace Machine

-- Whether a path is another one or below it.
def isWithin (path other : String) : Bool :=
  path = other || path.startsWith (other ++ "/")

-- All entries at a path and below it.
def tree (m : Machine) (path : String) : List (String × Entry) :=
  m.entries.filter fun (p, _) => isWithin p path

def removeTree (path : String) (m : Machine) : Machine :=
  { m with entries := m.entries.filter fun (p, _) => !isWithin p path }

-- The same entries below another path.
def copyTree (path target : String) (m : Machine) : Machine :=
  (m.tree path).foldl
    (fun m (p, e) => m.setEntry (target ++ String.ofList (p.toList.drop path.length)) e) m

-- Folders that were there from the start stay.
def isFixed (path : String) : Bool :=
  path ∈ folders || parent path ∈ programFolders

end Machine

-- Do something for each name. The status is one if it fails for any of them.
def forNames (names : List String) (act : String → Work Bool) : Work Nat := do
  let done ← names.mapM act
  return if done.all id then 0 else 1

def missingOperand (tool what : String) : Work Nat :=
  misuse tool ("missing " ++ what) 1

namespace Listing

def forms : List OptionForm :=
  [⟨'a', "all", .nothing⟩, ⟨'A', "almost-all", .nothing⟩, ⟨'d', "directory", .nothing⟩,
   ⟨'1', "", .nothing⟩, ⟨'r', "reverse", .nothing⟩, ⟨'R', "recursive", .nothing⟩,
   ⟨'F', "classify", .joined⟩, ⟨'p', "", .nothing⟩, ⟨'C', "", .nothing⟩, ⟨'t', "", .nothing⟩,
   ⟨'U', "", .nothing⟩, ⟨'m', "", .nothing⟩, ⟨'q', "", .nothing⟩]

-- A name with a mark for what it is.
def marked (g : Given) (name : String) (e : Option Entry) : String :=
  match e with
  | some .folder => if g.has 'F' || g.has 'p' then name ++ "/" else name
  | some (.file _ true) => if g.has 'F' then name ++ "*" else name
  | _ => name

def ordered (g : Given) (names : List String) : List String :=
  if g.has 'r' then names.reverse else names

-- The names in a folder that are shown.
def shownNames (g : Given) (m : Machine) (path : String) : List String :=
  let names := (m.children path).filter fun n => g.has 'a' || g.has 'A' || !n.startsWith "."
  ordered g (if g.has 'a' then "." :: ".." :: names else names)

def entryAt (m : Machine) (path : String) : Option Entry :=
  m.entry? path

def lines (g : Given) (m : Machine) (path : String) : String :=
  let text (n : String) : String := marked g n (entryAt m (Machine.resolve path n))
  let names := (shownNames g m path).map text
  if g.has 'm' then
    if names.isEmpty then "" else ", ".intercalate names ++ "\n"
  else unlines names

-- A folder with all folders below it.
def deep (g : Given) (m : Machine) : (fuel : Nat) → (written path : String) → List (String × String)
  | 0, _, _ => []
  | fuel + 1, written, path =>
    let below := (shownNames g m path).filter fun n =>
      n ≠ "." && n ≠ ".." && entryAt m (Machine.resolve path n) = some .folder
    (written, path) ::
      below.flatMap fun n =>
        deep g m fuel (if written.endsWith "/" then written ++ n else written ++ "/" ++ n)
          (Machine.resolve path n)

end Listing

open Listing in
def lsTool (args : List String) : Work Nat :=
  withOptions "ls" Listing.forms 2 args fun g => do
    let names := if g.operands.isEmpty then ["."] else g.operands
    let s ← get
    let found := names.map fun n =>
      let full := Machine.resolve s.folder n
      let isDevice := (Machine.devices.lookup full).isSome || (streamPath? full).isSome
      (n, if isDevice then .ok (full, some (Entry.file "" false)) else s.machine.find s.folder n)
    let missing := found.filter fun (_, r) =>
      match r with
      | .ok (_, some _) => false
      | _ => true
    missing.forM fun (n, r) =>
      let e := match r with
        | .error e => e
        | .ok _ => .noEntry
      toolComplain "ls" ("cannot access " ++ ShellWord.always n ++ ": " ++ e.text)
    let there := found.filterMap fun (n, r) =>
      match r with
      | .ok (full, some e) => some (n, full, e)
      | _ => none
    let there := there.mergeSort fun a b => decide (a.1 ≤ b.1)
    let there := if g.has 'r' then there.reverse else there
    let single (e : Entry) : Bool := g.has 'd' || e ≠ .folder
    let files := there.filter fun x => single x.2.2
    let folders := there.filter fun x => !single x.2.2
    print (unlines (files.map fun (n, _, e) => marked g n (some e)))
    let shown := folders.flatMap fun (n, full, _) =>
      if g.has 'R' then deep g s.machine 100 n full else [(n, full)]
    let titled := names.length > 1 || g.has 'R'
    let texts := shown.map fun (n, full) =>
      (if titled then n ++ ":\n" else "") ++ lines g s.machine full
    if !files.isEmpty && !texts.isEmpty then print "\n"
    print ("\n".intercalate texts)
    return if missing.isEmpty then 0 else 2

def rmTool (args : List String) : Work Nat := do
  let forms : List OptionForm :=
    [⟨'r', "recursive", .nothing⟩, ⟨'R', "", .nothing⟩, ⟨'f', "force", .nothing⟩,
     ⟨'v', "verbose", .nothing⟩, ⟨'d', "dir", .nothing⟩, ⟨'i', "", .nothing⟩, ⟨'I', "", .nothing⟩]
  withOptions "rm" forms 1 args fun g => do
    let deep := g.has 'r' || g.has 'R'
    let refused (name reason : String) : Work Bool := do
      toolComplain "rm" ("cannot remove " ++ ShellWord.always name ++ ": " ++ reason)
      return false
    if g.operands.isEmpty then
      if g.has 'f' then return 0 else missingOperand "rm" "operand"
    else
      forNames g.operands fun name => do
        let s ← get
        match s.machine.find s.folder name with
        | .error e =>
          if g.has 'f' && (e = .noEntry || e = .notFolder) then return true
          else refused name e.text
        | .ok (_, none) =>
          if g.has 'f' then return true else refused name Refusal.noEntry.text
        | .ok (full, some .folder) =>
          if deep then
            if Machine.isFixed full then refused name Refusal.denied.text
            else
              setMachine (s.machine.removeTree full)
              if g.has 'v' then printLine ("removed directory " ++ ShellWord.always name)
              return true
          else if g.has 'd' then
            if (s.machine.children full).isEmpty then
              setMachine (s.machine.removeEntry full)
              return true
            else refused name Refusal.notEmpty.text
          else refused name Refusal.isFolder.text
        | .ok (full, some (.file _ _)) =>
          setMachine (s.machine.removeEntry full)
          if g.has 'v' then printLine ("removed " ++ ShellWord.always name)
          return true

-- Make a folder, and perhaps those on the way to it.
def makeFolder (parents : Bool) (name : String) : Work (Option Refusal) := do
  let s ← get
  if parents then
    let full := Machine.resolve s.folder name
    let steps := Machine.steps [] full
    let ways := (List.range (steps.length + 1)).map fun n => Machine.ofSteps (steps.take n)
    let blocked := ways.any fun p =>
      match s.machine.entry? p with
      | some (.file _ _) => true
      | _ => false
    if blocked then return some .notFolder
    else
      let missing := ways.filter fun p => (s.machine.entry? p).isNone
      setMachine (missing.foldl (fun m p => m.setEntry p .folder) s.machine)
      return none
  else
    match s.machine.find s.folder name with
    | .error e => return some e
    | .ok (_, some _) => return some .present
    | .ok (full, none) =>
      setMachine (s.machine.setEntry full .folder)
      return none

def mkdirTool (args : List String) : Work Nat := do
  let forms : List OptionForm :=
    [⟨'p', "parents", .nothing⟩, ⟨'v', "verbose", .nothing⟩, ⟨'m', "mode", .value⟩]
  withOptions "mkdir" forms 1 args fun g => do
    if g.operands.isEmpty then missingOperand "mkdir" "operand"
    else
      forNames g.operands fun name => do
        match ← makeFolder (g.has 'p') name with
        | none =>
          if g.has 'v' then printLine ("mkdir: created directory " ++ ShellWord.always name)
          return true
        | some e =>
          toolComplain "mkdir"
            ("cannot create directory " ++ ShellWord.always name ++ ": " ++ e.text)
          return false

def rmdirTool (args : List String) : Work Nat := do
  let forms : List OptionForm := [⟨'p', "parents", .nothing⟩, ⟨'v', "verbose", .nothing⟩]
  withOptions "rmdir" forms 1 args fun g => do
    if g.operands.isEmpty then missingOperand "rmdir" "operand"
    else
      forNames g.operands fun name => do
        let s ← get
        let refused (e : Refusal) : Work Bool := do
          toolComplain "rmdir" ("failed to remove " ++ ShellWord.always name ++ ": " ++ e.text)
          return false
        match s.machine.find s.folder name with
        | .error e => refused e
        | .ok (_, none) => refused .noEntry
        | .ok (_, some (.file _ _)) => refused .notFolder
        | .ok (full, some .folder) =>
          if (s.machine.children full).isEmpty && !Machine.isFixed full then
            if g.has 'v' then printLine ("rmdir: removing directory, " ++ ShellWord.always name)
            setMachine (s.machine.removeEntry full)
            return true
          else refused .notEmpty

def touchTool (args : List String) : Work Nat := do
  let forms : List OptionForm :=
    [⟨'a', "", .nothing⟩, ⟨'m', "", .nothing⟩, ⟨'c', "no-create", .nothing⟩,
     ⟨'d', "date", .value⟩, ⟨'r', "reference", .value⟩, ⟨'t', "", .value⟩]
  withOptions "touch" forms 1 args fun g => do
    if g.operands.isEmpty then missingOperand "touch" "file operand"
    else
      forNames g.operands fun name => do
        let s ← get
        match s.machine.find s.folder name with
        | .ok (_, some _) => return true
        | .ok (full, none) =>
          if !g.has 'c' then setMachine (s.machine.setEntry full (.file "" false))
          return true
        | .error e =>
          if g.has 'c' && e = .noEntry then return true
          else
            toolComplain "touch" ("cannot touch " ++ ShellWord.always name ++ ": " ++ e.text)
            return false

-- Copying and moving

namespace Placing

def forms : List OptionForm :=
  [⟨'r', "recursive", .nothing⟩, ⟨'R', "", .nothing⟩, ⟨'a', "archive", .nothing⟩,
   ⟨'f', "force", .nothing⟩, ⟨'p', "", .nothing⟩, ⟨'v', "verbose", .nothing⟩,
   ⟨'n', "no-clobber", .nothing⟩, ⟨'i', "", .nothing⟩, ⟨'T', "no-target-directory", .nothing⟩,
   ⟨'t', "target-directory", .value⟩]

-- The entry at a path. Devices and streams have what can be read from them.
def sourceAt (name : String) : Work (Except Refusal (String × Entry)) := do
  let s ← get
  let full := Machine.resolve s.folder name
  if (Machine.devices.lookup full).isSome || (streamPath? full).isSome then
    match ← readNamed name with
    | .ok text => return .ok (full, .file text false)
    | .error e => return .error e
  else
    match s.machine.find s.folder name with
    | .ok (full, some e) => return .ok (full, e)
    | .ok (_, none) => return .error .noEntry
    | .error e => return .error e

-- Where something goes: into a folder, or to the target itself.
def destination (s : Shell) (g : Given) (name target : String) : String :=
  match s.machine.find s.folder target with
  | .ok (_, some .folder) =>
    if g.has 'T' then target
    else (if target.endsWith "/" then target else target ++ "/") ++ Machine.baseName name
  | _ => target

-- Put an entry where it goes. The result tells what is wrong.
def place (tool : String) (g : Given) (name target : String) : Work (Option String) := do
  let moves := tool = "mv"
  match ← sourceAt name with
  | .error e => return some ("cannot stat " ++ ShellWord.always name ++ ": " ++ e.text)
  | .ok (full, entry) =>
    let s ← get
    let goal := destination s g name target
    let here := ShellWord.always name
    let there := ShellWord.always goal
    let deep := moves || g.has 'r' || g.has 'R' || g.has 'a'
    if entry = .folder && !deep then
      return some ("-r not specified; omitting directory " ++ here)
    else
      match s.machine.find s.folder goal with
      | .error e =>
        return some <|
          if moves then "cannot move " ++ here ++ " to " ++ there ++ ": " ++ e.text
          else if entry = .folder then "cannot create directory " ++ there ++ ": " ++ e.text
          else "cannot create regular file " ++ there ++ ": " ++ e.text
      | .ok (path, old) =>
        if path = full then
          return some (here ++ " and " ++ there ++ " are the same file")
        else if old.isSome && g.has 'n' then return none
        else
          match entry with
          | .file text executable =>
            match old with
            | some .folder =>
              return some ("cannot overwrite directory " ++ there ++ " with non-directory")
            | _ =>
              let m := s.machine.setEntry path (.file text executable)
              setMachine (if moves then m.removeEntry full else m)
              return none
          | .folder =>
            if Machine.isWithin path full then
              return some ("cannot " ++ (if moves then "move '" else "copy a directory, '") ++
                name ++ (if moves then "' to a subdirectory of itself, '" else
                  "', into itself, '") ++ goal ++ "'")
            else if Machine.isFixed full && moves then
              return some ("cannot move " ++ here ++ " to " ++ there ++ ": Permission denied")
            else
              let m := s.machine.copyTree full path
              setMachine (if moves then m.removeTree full else m)
              return none

def placeAll (tool : String) (g : Given) (target : String) (names : List String) : Work Nat :=
  forNames names fun name => do
    let goal := destination (← get) g name target
    match ← place tool g name target with
    | none =>
      if g.has 'v' then
        printLine ((if tool = "mv" then "renamed '" else "'") ++ name ++ "' -> '" ++ goal ++ "'")
      return true
    | some text =>
      toolComplain tool text
      return false

def run (tool : String) (args : List String) : Work Nat :=
  withOptions tool forms 1 args fun g => do
    match g.value? 't', g.operands.reverse with
    | _, [] => missingOperand tool "file operand"
    | some folder, names => placeAll tool g folder names.reverse
    | none, [name] =>
      misuse tool ("missing destination file operand after " ++ ShellWord.always name) 1
    | none, target :: names =>
      let s ← get
      let toFolder := match s.machine.find s.folder target with
        | .ok (_, some .folder) => true
        | _ => false
      if names.length > 1 && !toFolder then
        let reason := match s.machine.find s.folder target with
          | .ok (_, some _) => Refusal.notFolder.text
          | _ => Refusal.noEntry.text
        toolComplain tool ("target " ++ ShellWord.always target ++ ": " ++ reason)
        return 1
      else placeAll tool g target names.reverse

end Placing

def cpTool : List String → Work Nat :=
  Placing.run "cp"

def mvTool : List String → Work Nat :=
  Placing.run "mv"

-- A name that nothing has yet: the letters in the place of the last marks tell a number.
def temporaryName (template : String) (number : Nat) : String :=
  let cs := template.toList.reverse
  let after := cs.takeWhile (· ≠ 'X')
  let marks := (cs.drop after.length).takeWhile (· = 'X')
  let before := cs.drop (after.length + marks.length)
  let digits := (toString number).toList
  let filled := List.replicate (marks.length - digits.length) 'a' ++ digits
  String.ofList (before.reverse ++ filled ++ after.reverse)

def mktempTool (args : List String) : Work Nat := do
  let forms : List OptionForm :=
    [⟨'d', "directory", .nothing⟩, ⟨'u', "dry-run", .nothing⟩, ⟨'q', "quiet", .nothing⟩,
     ⟨'p', "tmpdir", .value⟩, ⟨'t', "", .nothing⟩]
  withOptions "mktemp" forms 1 args fun g => do
    let template := match g.operands, g.value? 'p' with
      | a :: _, some folder => folder ++ "/" ++ a
      | a :: _, none => if g.has 't' then "/tmp/" ++ a else a
      | [], some folder => folder ++ "/tmp.XXXXXXXXXX"
      | [], none => "/tmp/tmp.XXXXXXXXXX"
    if !(template.toList.splitOn 'X').any (·.isEmpty) || (template.toList.count 'X') < 3 then
      toolComplain "mktemp" ("too few X's in template " ++ ShellWord.always template)
      return 1
    else
      let (n, m) := (← get).machine.fresh
      setMachine m
      let name := temporaryName template n
      let s ← get
      match s.machine.find s.folder name with
      | .ok (full, none) =>
        if !g.has 'u' then
          setMachine (s.machine.setEntry full (if g.has 'd' then .folder else .file "" false))
        printLine name
        return 0
      | _ =>
        let what := if g.has 'd' then "directory" else "file"
        toolComplain "mktemp" ("failed to create " ++ what ++ " via template '" ++ template ++
          "': " ++ Refusal.noEntry.text)
        return 1

-- What a mode does to the right to run a file, if it is one.
def executableAfter? (mode : String) (before : Bool) : Option Bool :=
  if !mode.isEmpty && mode.all (isDigitOf 8) then
    some ((ofDigits 8 mode.toList / 64) % 2 = 1)
  else
    let parts := (mode.toList.splitOn ',').map fun part =>
      let (who, r) := part.span (· ∈ ['u', 'g', 'o', 'a'])
      match r with
      | sign :: rights =>
        if sign ∈ ['+', '-', '='] && rights.all (· ∈ ['r', 'w', 'x', 'X', 's', 't']) then
          let concerns := who.isEmpty || 'u' ∈ who || 'a' ∈ who
          some (concerns, sign, decide ('x' ∈ rights))
        else none
      | [] => none
    parts.foldl
      (fun result part =>
        match result, part with
        | some old, some (concerns, sign, x) =>
          if !concerns then some old
          else if sign = '+' then some (old || x)
          else if sign = '-' then some (old && !x)
          else some x
        | _, _ => none)
      (some before)

def chmodTool (args : List String) : Work Nat := do
  let isMode (a : String) : Bool := (executableAfter? a false).isSome && a.startsWith "-"
  match args.find? isMode with
  | some mode => change mode (args.filter (· ≠ mode))
  | none =>
    withOptions "chmod" [⟨'R', "recursive", .nothing⟩, ⟨'f', "silent", .nothing⟩,
        ⟨'v', "verbose", .nothing⟩, ⟨'c', "changes", .nothing⟩] 1 args fun g => do
      match g.operands with
      | [] => missingOperand "chmod" "operand"
      | [mode] => misuse "chmod" ("missing operand after " ++ quoted mode) 1
      | mode :: names =>
        if (executableAfter? mode false).isSome then change mode names
        else misuse "chmod" ("invalid mode: " ++ quoted mode) 1
where
  change (mode : String) (names : List String) : Work Nat :=
    forNames names fun name => do
      let s ← get
      match s.machine.find s.folder name with
      | .ok (full, some (.file text x)) =>
        if !Machine.isFixed full then
          setMachine (s.machine.setEntry full (.file text ((executableAfter? mode x).getD x)))
        return true
      | .ok (_, some .folder) => return true
      | _ =>
        toolComplain "chmod"
          ("cannot access " ++ ShellWord.always name ++ ": " ++ Refusal.noEntry.text)
        return false

-- Copies stand in for links.
def lnTool (args : List String) : Work Nat := do
  let forms : List OptionForm :=
    [⟨'s', "symbolic", .nothing⟩, ⟨'f', "force", .nothing⟩, ⟨'n', "", .nothing⟩,
     ⟨'v', "verbose", .nothing⟩]
  withOptions "ln" forms 1 args fun g => do
    match g.operands with
    | [] => missingOperand "ln" "file operand"
    | name :: rest =>
      let s ← get
      let target := Placing.destination s g name (rest.headD ".")
      match s.machine.find s.folder name, s.machine.find s.folder target with
      | .ok (_, some (.file text x)), .ok (full, old) =>
        if old.isSome && !g.has 'f' then
          let kind := if g.has 's' then "symbolic" else "hard"
          toolComplain "ln"
            ("failed to create " ++ kind ++ " link " ++ ShellWord.always target ++ ": " ++
              Refusal.present.text)
          return 1
        else
          setMachine (s.machine.setEntry full (.file text x))
          return 0
      | _, _ =>
        toolComplain "ln"
          ("failed to access " ++ ShellWord.always name ++ ": " ++ Refusal.noEntry.text)
        return 1

def truncateTool (args : List String) : Work Nat := do
  let forms : List OptionForm := [⟨'s', "size", .value⟩, ⟨'c', "no-create", .nothing⟩]
  withOptions "truncate" forms 1 args fun g => do
    match (g.value? 's').bind sized? with
    | none => misuse "truncate" "you must specify either '--size' or '--reference'" 1
    | some size =>
      if g.operands.isEmpty then missingOperand "truncate" "file operand"
      else
        forNames g.operands fun name => do
          let s ← get
          let put (full old : String) (x : Bool) : Work Bool := do
            let cs := old.toList.take size
            let text := String.ofList (cs ++ List.replicate (size - cs.length) '\x00')
            setMachine (s.machine.setEntry full (.file text x))
            return true
          let refused (e : Refusal) : Work Bool := do
            toolComplain "truncate"
              ("cannot open " ++ ShellWord.always name ++ " for writing: " ++ e.text)
            return false
          match s.machine.find s.folder name with
          | .ok (full, some (.file old x)) => put full old x
          | .ok (full, none) => if g.has 'c' then return true else put full "" false
          | .ok (_, some .folder) => refused .isFolder
          | .error e => refused e

-- The whole way to files. All but the last name must be there.
def realpathTool (args : List String) : Work Nat :=
  withOptions "realpath" (OptionForm.ofLetters "emsqz") 1 args fun g => do
    if g.operands.isEmpty then misuse "realpath" "missing operand" 1
    else
      let statuses ← g.operands.mapM fun name => do
        let s ← get
        match s.machine.find s.folder name with
        | .ok (full, found) =>
          if found.isNone && g.has 'e' then
            toolComplain "realpath" (ShellWord.inFront name ++ ": " ++ Refusal.noEntry.text)
            return 1
          else
            printLine full
            return 0
        | .error e =>
          if g.has 'm' then
            printLine (Machine.resolve s.folder name)
            return 0
          else
            toolComplain "realpath" (ShellWord.inFront name ++ ": " ++ e.text)
            return 1
      return statuses.foldl max 0

-- Nothing on a machine is a link, but every file has a way to it.
def readlinkTool (args : List String) : Work Nat :=
  withOptions "readlink" (OptionForm.ofLetters "femnqsvz") 1 args fun g => do
    let statuses ← g.operands.mapM fun name => do
      let s ← get
      match s.machine.find s.folder name with
      | .ok (full, found) =>
        if g.has 'f' || g.has 'm' || (g.has 'e' && found.isSome) then
          print (full ++ if g.has 'n' then "" else "\n")
          return 0
        else return 1
      | .error _ => return 1
    return statuses.foldl max 0

end Rulebook.Script
