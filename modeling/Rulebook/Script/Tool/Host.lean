import Rulebook.Script.Builtin.Place

namespace Rulebook.Script

-- Programs that wait or tell about the machine and the one who uses it.

-- So many thousandths of a second, with a letter for the unit.
def duration? (s : String) : Option Nat :=
  let units : List (String × Nat) :=
    [("", 1000), ("s", 1000), ("m", 60000), ("h", 3600000), ("d", 86400000)]
  let (number, unit) := s.toList.span fun c => c.isDigit || c = '.'
  match units.lookup (String.ofList unit), number.splitOn '.' with
  | some size, [whole] =>
    if whole.isEmpty then none else some (ofDigits 10 whole * size)
  | some size, [whole, fraction] =>
    if whole.isEmpty && fraction.isEmpty then none
    else some ((ofDigits 10 (whole ++ fraction) * size) / Nat.pow 10 fraction.length)
  | _, _ => none

def sleepTool (args : List String) : Work Nat :=
  withOptions "sleep" [] 1 args fun g => do
    if g.operands.isEmpty then misuse "sleep" "missing operand" 1
    else if g.operands = ["infinity"] || g.operands = ["inf"] then
      match (← get).deadline with
      | some d => sleepFor (d + 1)
      | none => setFlow .endless
      return 0
    else
      match g.operands.filter fun a => (duration? a).isNone with
      | a :: more =>
        (a :: more).forM fun a => toolComplain "sleep" ("invalid time interval " ++ quoted a)
        usageHint "sleep"
        return 1
      | [] =>
        sleepFor ((g.operands.filterMap duration?).foldl (· + ·) 0)
        return 0

def unameTool (args : List String) : Work Nat :=
  withOptions "uname" (OptionForm.ofLetters "asnrvmpio") 1 args fun g => do
    let known : List (Char × String) :=
      [('s', "Linux"), ('n', "localhost"), ('r', "6.0.0"), ('v', "#1 SMP"), ('m', "x86_64"),
       ('o', "GNU/Linux")]
    let wanted := known.filter fun (c, _) => g.has 'a' || g.has c
    let shown := if wanted.isEmpty then ["Linux"] else wanted.map (·.2)
    printLine (" ".intercalate shown)
    return 0

def idTool (args : List String) : Work Nat :=
  withOptions "id" (OptionForm.ofLetters "ugGnr") 1 args fun g => do
    let one := g.has 'u' || g.has 'g' || g.has 'G'
    printLine <|
      if !one then "uid=0(root) gid=0(root) groups=0(root)"
      else if g.has 'n' then "root"
      else "0"
    return 0

-- Print one line whatever the arguments are.
def tellTool (line : String) (_ : List String) : Work Nat := do
  printLine line
  return 0

def printenvTool (args : List String) : Work Nat :=
  withOptions "printenv" [⟨'0', "null", .nothing⟩] 2 args fun g => do
    let known := (← get).environment
    let stop := if g.has '0' then "\x00" else "\n"
    if g.operands.isEmpty then
      print (String.join (known.map fun (name, value) => name ++ "=" ++ value ++ stop))
      return 0
    else
      let values := g.operands.map fun name => known.lookup name
      print (String.join (values.filterMap id |>.map (· ++ stop)))
      return if values.all (·.isSome) then 0 else 1

def pwdTool (args : List String) : Work Nat :=
  withOptions "pwd" [⟨'L', "logical", .nothing⟩, ⟨'P', "physical", .nothing⟩] 1 args fun g => do
    let s ← get
    let told := (g.options.getLast?).any (·.1 = 'L')
    printLine (if told then s.folder else Machine.resolve "/" s.folder)
    return 0

-- The paths of programs, all of them or the first ones.
def whichTool (args : List String) : Work Nat :=
  withOptions "which" [⟨'a', "", .nothing⟩, ⟨'s', "", .nothing⟩] 2 args fun g => do
    let s ← get
    let found := g.operands.map fun name =>
      if name.contains '/' then
        match s.machine.find s.folder name with
        | .ok (_, some (.file _ true)) => [name]
        | _ => []
      else
        let paths := (programPaths s (s.value "PATH") name).filter fun p =>
          match s.machine.find s.folder p with
          | .ok (_, some (.file _ x)) => x
          | _ => false
        if g.has 'a' then paths else paths.take 1
    if !g.has 's' then print (unlines found.flatten)
    return if found.isEmpty || found.any (·.isEmpty) then 1 else 0

end Rulebook.Script
