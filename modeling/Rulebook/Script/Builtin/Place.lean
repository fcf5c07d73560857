import Rulebook.Script.Builtin.Process
import Rulebook.Script.Rights

namespace Rulebook.Script

-- Commands of the shell that are about folders and about where commands are found.

-- Go to a folder, and tell its path if it is not the one that was asked for.
def enter (path : String) (shows : Bool) : Work Nat := do
  let before := (← get).folder
  modify fun s => { s with folder := path }
  let keep (name value : String) : Work Unit :=
    modify fun s => s.setVariable name { (s.known? name).getD {} with
      value := some value, exported := true }
  keep "OLDPWD" before
  keep "PWD" path
  if shows then printLine path
  return 0

-- The folders where a relative path may start.
def startingPoints (s : Shell) (path : String) : List String :=
  if path.startsWith "/" || path.startsWith "./" || path.startsWith "../" || path = "." ||
      path = ".." then [""]
  else
    match s.value? "CDPATH" with
    | some list => (list.toList.splitOn ':').map String.ofList ++ [""]
    | none => [""]

-- Of the letters for paths as they are told and as they are, the last one counts.
def isPlain (options : List (Char × String)) : Bool :=
  (options.getLast?).any (·.1 = 'P')

def cdBuiltin (args : List String) : Work Nat :=
  withLetters "LP" "" args fun options args => do
    let s ← get
    let path := match args with
      | a :: _ => if a = "-" then s.value "OLDPWD" else a
      | [] => s.value "HOME"
    if path = "" then return 0
    else
      let found? := (startingPoints s path).findSome? fun start =>
        let joined := if start = "" then path else start ++ "/" ++ path
        let told := if isPlain options then joined else Machine.told s.folder joined
        match s.machine.find s.folder told with
        | .ok (full, some .folder) =>
          some (if isPlain options then full else told, !start.isEmpty)
        | _ => none
      match found? with
      | some (full, elsewhere) => enter full (elsewhere || args.head? = some "-")
      | none => refuse ("can't cd to " ++ path)

def pwdBuiltin (args : List String) : Work Nat :=
  withLetters "LP" "" args fun options _ => do
    let folder := (← get).folder
    printLine (if isPlain options then Machine.resolve "/" folder else folder)
    return 0

-- Three octal digits after a zero.
def shownMask (n : Nat) : String :=
  let s := digits 8 n
  String.ofList (List.replicate (4 - s.length) '0') ++ s

-- What rights there are for the user, the group and others.
def shownRights (rights : Nat) : String :=
  let shown (n : Nat) : String :=
    String.ofList <| [(4, 'r'), (2, 'w'), (1, 'x')].filterMap fun (bit, c) =>
      if n / bit % 2 = 1 then some c else none
  ",".intercalate ([("u", 64), ("g", 8), ("o", 1)].map fun (who, place) =>
    who ++ "=" ++ shown (rights / place % 8))

-- A mask tells which rights are taken away.
def umaskBuiltin (args : List String) : Work Nat :=
  withLetters "S" "" args fun options args => do
    let mask := (← get).mask
    match args with
    | [] =>
      printLine (if options.isEmpty then shownMask mask else shownRights (511 - mask))
      return 0
    | a :: _ =>
      if (a.toList.head?).any Char.isDigit then
        if a.all (isDigitOf 8) then
          modify fun s => { s with mask := ofDigits 8 a.toList % 512 }
          return 0
        else refuse ("Illegal number: " ++ a)
      else
        match Rights.after? a (511 - mask) with
        | some rights =>
          modify fun s => { s with mask := 511 - rights }
          return 0
        | none => refuse ("Illegal mode: " ++ a)

def timesBuiltin (_ : List String) : Work Nat := do
  print "0m0.000000s 0m0.000000s\n0m0.000000s 0m0.000000s\n"
  return 0

def ulimitBuiltin (args : List String) : Work Nat :=
  withLetters "HSatfdscmlpnvwr" "" args fun _ args => do
    match args with
    | [] =>
      printLine "unlimited"
      return 0
    | [limit] =>
      if limit = "unlimited" || (natural? limit).isSome then return 0
      else refuse "bad number"
    | _ => refuse "too many arguments"

-- The files of a name in the folders where programs are looked for.
def programPaths (s : Shell) (path name : String) : List String :=
  (path.toList.splitOn ':').filterMap fun folder =>
    let full := if folder.isEmpty then name else String.ofList folder ++ "/" ++ name
    match s.machine.find s.folder full with
    | .ok (_, some (.file _ _)) => some full
    | _ => none

-- What a program is called that a name stands for.
def programPath? (s : Shell) (path name : String) : Option String :=
  if name.contains '/' then some name else (programPaths s path name).head?

-- What a name stands for as a command.
inductive Meaning
  | keyword
  | another (text : String)
  | function
  | builtin (special : Bool)
  | program (path : String)
  | nothing
  deriving DecidableEq

def meaning (s : Shell) (builtins : List String) (name : String) : Meaning :=
  if name ∈ keywords then .keyword
  else
    match s.aliases.lookup name with
    | some text => .another text
    | none =>
      if name ∈ reservedNames then .builtin true
      else if (s.functions.lookup name).isSome then .function
      else if name ∈ builtins then .builtin false
      else
        match programPath? s (s.value "PATH") name with
        | some path =>
          match s.machine.find s.folder path with
          | .ok (_, some (.file _ true)) => .program path
          | .ok (_, some _) => if name.contains '/' then .program path else .nothing
          | _ => .nothing
        | none => .nothing

-- Tell at length what names stand for.
def describe (builtins : List String) (name : String) : Work Nat := do
  let s ← get
  let text :=
    match meaning s builtins name with
    | .keyword => " is a shell keyword"
    | .another text => " is an alias for " ++ text
    | .function => " is a shell function"
    | .builtin special => if special then " is a special shell builtin" else " is a shell builtin"
    | .program path =>
      (if name ∈ s.found then " is a tracked alias for " else " is ") ++ path
    | .nothing => ": not found"
  printLine (name ++ text)
  if meaning s builtins name matches .program _ then modify (·.find name)
  return if meaning s builtins name = .nothing then 127 else 0

-- Tell how a name would be called.
def tellShortly (builtins : List String) (name : String) : Work Nat := do
  let s ← get
  match meaning s builtins name with
  | .nothing => return 127
  | .another text =>
    print ("alias " ++ shownAlias name text)
    return 0
  | .program path =>
    printLine path
    modify (·.find name)
    return 0
  | _ =>
    printLine name
    return 0

def typeBuiltin (builtins : List String) (args : List String) : Work Nat := do
  let statuses ← args.mapM (describe builtins)
  return statuses.foldl max 0

-- Where programs stand in the order in which they are listed.
def foundPlace (name : String) : Nat :=
  match name.toList with
  | c :: r => ((c :: r).foldl (fun n d => n + d.toNat) (c.toNat * 16)) % 32768 % 31
  | [] => 0

-- Forget the programs that have been found, find some, or list them.
def hashBuiltin (args : List String) : Work Nat :=
  withLetters "r" "" args fun options names => do
    if !options.isEmpty then
      modify fun s => { s with found := [] }
      return 0
    let s ← get
    let path := s.value "PATH"
    if names.isEmpty then
      let sorted := s.found.mergeSort fun a b => decide (foundPlace a ≤ foundPlace b)
      print (unlines (sorted.filterMap (programPath? s path)))
    let missing := names.filter fun name => (programPath? s path name).isNone
    missing.forM fun name => complain (name ++ ": not found")
    (names.filter (· ∉ missing)).forM fun name => modify (·.find name)
    return if missing.isEmpty then 0 else 1

end Rulebook.Script
