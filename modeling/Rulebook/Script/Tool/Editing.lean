import Rulebook.Script.Edit.Evaluation
import Rulebook.Script.Edit.Reader

namespace Rulebook.Script

-- The program that edits lines.

namespace Editing

def forms : List OptionForm :=
  [⟨'n', "quiet", .nothing⟩, ⟨'n', "silent", .nothing⟩, ⟨'e', "expression", .value⟩,
   ⟨'f', "file", .value⟩, ⟨'E', "regexp-extended", .nothing⟩, ⟨'r', "", .nothing⟩,
   ⟨'s', "separate", .nothing⟩, ⟨'u', "unbuffered", .nothing⟩, ⟨'z', "null-data", .nothing⟩,
   ⟨'z', "zero-terminated", .nothing⟩, ⟨'i', "in-place", .joined⟩, ⟨'l', "line-length", .value⟩,
   ⟨'π', "posix", .nothing⟩, ⟨'b', "binary", .nothing⟩, ⟨'ξ', "sandbox", .nothing⟩]

def complainUsage : Work Unit :=
  complainLine "Usage: sed [OPTION]... \x7bscript-only-if-no-other-script\x7d [input-file]..."

-- The parts of a script, in the order in which they are given.
def parts : (count : Nat) → List (Char × String) → Work (Option (List (Edit.Origin × String)))
  | _, [] => return some []
  | count, ('e', text) :: given => do
    return (← parts (count + 1) given).map ((.expression (count + 1), text) :: ·)
  | count, ('f', name) :: given => do
    match ← readNamed name with
    | .ok text => return (← parts count given).map ((.file name, text) :: ·)
    | .error e =>
      toolComplain "sed" ("couldn't open file " ++ name ++ ": " ++ e.text)
      return none
  | count, _ :: given => parts count given

-- Files that are written to start empty.
def openFiles : List String → Work Bool
  | [] => return true
  | name :: names => do
    if name = "/dev/stdout" || name = "/dev/stderr" then openFiles names
    else
      match ← writeNamed name "" .write with
      | some e =>
        toolComplain "sed" ("couldn't open file " ++ name ++ ": " ++ e.text)
        return false
      | none => openFiles names

-- Files that are edited are files, and nothing else.
def isEditable (name : String) : Work Bool := do
  let s ← get
  match s.machine.find s.folder name with
  | .ok (full, some (.file _ _)) => return full ∉ Machine.nodes
  | _ => return false

-- The files that can be read, and the status. Nothing is read behind one that opens but cannot be
-- read, unless files are edited in their place.
def readFiles (inPlace : Bool) : List String → Work (List (String × String) × Nat)
  | [] => return ([], 0)
  | name :: names => do
    if inPlace && (← isThere name) && !(← isEditable name) then
      toolComplain "sed" ("couldn't edit " ++ name ++ ": not a regular file")
      let (texts, status) ← readFiles inPlace names
      return (texts, max 4 status)
    else
      match ← readNamed name with
      | .ok text =>
        let (texts, status) ← readFiles inPlace names
        return ((name, text) :: texts, status)
      | .error e =>
        if e = .isFolder || e = .badStream then
          let shown := if name = "-" then "stdin" else name
          toolComplain "sed" ("read error on " ++ shown ++ ": " ++ e.text)
          return ([], 4)
        else
          toolComplain "sed" ("can't read " ++ name ++ ": " ++ e.text)
          let (texts, status) ← readFiles inPlace names
          return (texts, max 2 status)
where
  isThere (name : String) : Work Bool := do
    let s ← get
    match s.machine.find s.folder name with
    | .ok (_, some _) => return true
    | _ => return false

-- Where the old content of a file is kept. A star stands for its name.
def keptName (name suffix : String) : String :=
  if suffix.contains '*' then
    let base := Machine.baseName name
    let kept := suffix.replace "*" base
    if kept.contains '/' || !name.contains '/' then kept
    else String.ofList (name.toList.take (name.length - base.length)) ++ kept
  else name ++ suffix

-- Edit files one after the other.
def editEach (start : RunProgram) (settings : Edit.Settings) (cs : Edit.Commands)
    (suffix : Option String) (files : List (String × String)) : Edit.Act Unit :=
  files.forM fun (name, text) => do
    let edit := Edit.runFiles start settings cs (Edit.linesWithin settings.stop name text)
    match suffix with
    | none => edit
    | some suffix =>
      try
        edit
        save name suffix text
      catch
        | .left status =>
          save name suffix text
          throw (.left status)
        | stop => throw stop
where
  save (name suffix text : String) : Edit.Act Unit := do
    if suffix ≠ "" then
      match ← Edit.onShell (writeNamed (keptName name suffix) text .write) with
      | some e => throw (.failed ("cannot rename " ++ name ++ ": " ++ e.text) 4)
      | none => pure ()
    let _ ← Edit.onShell (writeNamed name (String.join (← get).edited.reverse) .write)
    modify fun s => { s with edited := [], unended := s.unended.filter (· ≠ "") }

-- What has not been needed of the input is there for others, unless it came from a pipe in blocks.
def leaveRest (stop : Char) (unbuffered : Bool) (lines : List Edit.Line) : Work Unit := do
  let rest := (lines.filter (·.file = "-")).flatMap fun l =>
    if l.ended then l.text.toList ++ [stop] else l.text.toList
  match (← get).opened 0 with
  | .ok { device := .pipe _, .. } =>
    if unbuffered then giveBack 0 rest else if !rest.isEmpty then satisfy 0
  | _ => giveBack 0 rest

-- Edit files with a script.
def edit (start : RunProgram) (g : Given) (settings : Edit.Settings) (cs : Edit.Commands)
    (names : List String) : Work Nat := do
  let names := if names.isEmpty then ["-"] else names
  let (files, failed) ← readFiles settings.inPlace names
  let act : Edit.Act Unit := do
    if g.has 'i' || g.has 's' then editEach start settings cs (g.value? 'i') files
    else
      Edit.runFiles start settings cs
        (files.flatMap fun (name, text) => Edit.linesWithin settings.stop name text)
  let ending : Edit.Act Nat := do
    try
      act
      Edit.flush
      return failed
    catch
      | .left status =>
        Edit.flush
        Edit.onShell (leaveRest settings.stop (g.has 'u') (← get).input)
        return if status ≠ 0 then status else failed
      | .failed message status =>
        Edit.onShell (toolComplain "sed" message)
        Edit.flush
        return status
      | .halted => return failed
      | .endless =>
        Edit.onShell (setFlow .endless)
        return failed
  match ← ending.run.run {} with
  | (.ok status, _) => return status
  | _ => return failed

end Editing

-- Lines are edited by a script that is the first argument, or that comes from options.
def sedTool (start : RunProgram) (args : List String) : Work Nat := do
  match OptionForm.parse Editing.forms true args with
  | .error text =>
    toolComplain "sed" text
    Editing.complainUsage
    return 1
  | .ok g =>
    let given := g.options.filter fun o => o.1 = 'e' || o.1 = 'f'
    match if given.isEmpty then
        match g.operands with
        | p :: names => some ([('e', p)], names)
        | [] => none
      else some (given, g.operands) with
    | none =>
      Editing.complainUsage
      return 1
    | some (given, names) =>
      match ← Editing.parts 0 given with
      | none => return 4
      | some parts =>
        match Edit.Commands.parse (g.has 'E' || g.has 'r') parts with
        | .error (message, status) =>
          toolComplain "sed" message
          return status
        | .ok (cs, place) =>
          if !(← Editing.openFiles cs.filesWritten) then return 4
          if g.has 'i' && names.isEmpty then
            toolComplain "sed" "no input files"
            return 4
          let width := (g.value? 'l').map fun w => ofDigits 10 (w.toList.takeWhile Char.isDigit)
          let settings : Edit.Settings :=
            { silent := g.has 'n' || (parts.head?.any fun p => p.2.startsWith "#n")
              stop := if g.has 'z' then '\x00' else '\n'
              width := width.getD 70
              inPlace := g.has 'i'
              place := place }
          Editing.edit start g settings cs names

end Rulebook.Script
