import Rulebook.Script.Regex

namespace Rulebook.Script.Edit

-- Scripts that edit lines.

-- What is looked for in a line: an expression, or the one that was used last.
structure Search where
  expression : Option Regex
  ignoresCase : Bool := false
  manyLines : Bool := false
  deriving DecidableEq

inductive Address
  | line (n : Nat)
  | last
  | search (s : Search)
  -- every line with this distance from the first one
  | step (first distance : Nat)
  deriving DecidableEq

-- Where a range ends.
inductive RangeEnd
  | address (a : Address)
  | after (lines : Nat)
  -- the next line whose number is a multiple
  | multiple (n : Nat)
  deriving DecidableEq

inductive Selector
  | all
  | one (a : Address)
  -- a range may start before the first line
  | range (first : Option Address) (last : RangeEnd)
  deriving DecidableEq

def Selector.isRange : Selector → Bool
  | .range _ _ => true
  | _ => false

-- How letters are changed in a replacement.
inductive Casing
  | same
  | upper
  | lower
  deriving DecidableEq

def Casing.change : Casing → Char → Char
  | .same, c => c
  | .upper, c => c.toUpper
  | .lower, c => c.toLower

inductive Part
  | text (c : Char)
  | group (n : Nat)
  -- from here on, or for one letter
  | casing (c : Casing)
  | nextCasing (c : Casing)
  deriving DecidableEq

structure Substitution where
  search : Search
  replacement : List Part
  all : Bool := false
  prints : Bool := false
  -- the line is replaced by what a command with its text writes
  runs : Bool := false
  -- the first occurrence that is replaced
  count : Option Nat := none
  file : Option String := none
  deriving DecidableEq

namespace Substitution

-- The greatest number of a group that is asked for.
def groups (s : Substitution) : Nat :=
  s.replacement.foldl
    (fun n part =>
      match part with
      | .group k => max n k
      | _ => n)
    0

end Substitution

-- How commands end that give up the script.
inductive Leaving
  | quietly
  | normally
  deriving DecidableEq

inductive Action
  -- to the command with this number if the line is not selected
  | block (stop : Nat)
  | label (name : String)
  | branch (label : String)
  | branchIfReplaced (label : String)
  | branchUnlessReplaced (label : String)
  | leave (how : Leaving) (status : Nat)
  | substitute (s : Substitution)
  | translate (pairs : List (Char × Char))
  | append (text : String)
  | insert (text : String)
  | change (text : String)
  -- a command for a shell, or the line as one
  | run (command : String)
  | readFile (file : String)
  | readLine (file : String)
  | writeFile (file : String)
  | writeLine (file : String)
  -- show the line, so wide at most
  | display (width : Option Nat)
  -- a command that is just its letter
  | simple (letter : Char)
  deriving DecidableEq

-- The text that a command has goes on.
def Action.extend (more : String) : Action → Action
  | .append text => .append (text ++ more)
  | .insert text => .insert (text ++ more)
  | .change text => .change (text ++ more)
  | .run text => .run (text ++ more)
  | other => other

structure Command where
  selector : Selector
  negated : Bool
  action : Action
  deriving DecidableEq

-- Commands with their numbers. The commands of a block follow it.
abbrev Commands := Array Command

namespace Commands

-- The command that a jump leads to, or the end. Of equal labels the last one counts.
def target (cs : Commands) (label : String) : Nat :=
  if label = "" then cs.size
  else
    ((cs.toList.zipIdx.reverse.find? fun (c, _) => c.action = .label label).map (·.2)).getD cs.size

-- The label of a jump that leads nowhere.
def missingLabel? (cs : Commands) : Option String :=
  let names := cs.toList.filterMap fun c =>
    match c.action with
    | .label n => some n
    | _ => none
  cs.toList.findSome? fun c =>
    match c.action with
    | .branch n | .branchIfReplaced n | .branchUnlessReplaced n =>
      if n = "" || n ∈ names then none else some n
    | _ => none

def filesWritten (cs : Commands) : List String :=
  cs.toList.filterMap fun c =>
    match c.action with
    | .writeFile f | .writeLine f => some f
    | .substitute s => s.file
    | _ => none

end Commands

end Rulebook.Script.Edit
