import Rulebook.Script.Scan.Evaluation

namespace Rulebook.Script

-- The program that runs programs for records.

namespace Scanning

def forms : List OptionForm :=
  [⟨'F', "", .value⟩, ⟨'v', "", .value⟩, ⟨'f', "", .value⟩, ⟨'W', "", .value⟩]

-- What is known at first.
def globals (name : String) (operands : List String) (environment : List (String × String)) :
    Scan.State :=
  let args := (name :: operands).zipIdx.map fun (a, i) => (toString i, Scan.Value.ofInput a)
  let bindings := environment.map fun (n, v) => (n, Scan.Value.ofInput v)
  let texts : List (String × String) :=
    [("FS", " "), ("OFS", " "), ("RS", "\n"), ("ORS", "\n"), ("SUBSEP", "\x1c"),
     ("CONVFMT", "%.6g"), ("OFMT", "%.6g"), ("FILENAME", "")]
  let numbers : List (String × Nat) :=
    [("NR", 0), ("FNR", 0), ("RSTART", 0), ("ARGC", args.length)]
  { globals :=
      texts.map (fun (n, s) => (n, .value (.text s))) ++
        numbers.map (fun (n, k) => (n, .value (.ofNat k))) ++
        [("RLENGTH", .value (.number (-1.0))), ("ARGV", .table 0), ("ENVIRON", .table 1)]
    tables := [(0, args), (1, bindings)]
    next := 2 }

-- The texts of programs in files, one after the other.
def programText (tool : String) : List String → Work (Option (List String))
  | [] => return some []
  | name :: names => do
    match ← readNamed name with
    | .ok text => return (← programText tool names).map (text :: ·)
    | .error e =>
      toolComplain tool ("cannot open \"" ++ name ++ "\" (" ++ e.text ++ ")")
      return none

-- The variables that are given before the start.
def preset (given : Given) : Scan.Act Unit :=
  given.options.forM fun (letter, value) => do
    if letter = 'F' then
      Scan.setGlobal "FS" (.text ((Escapes.programText.replaced value).1))
    else if letter = 'v' then
      match value.toList.span (· ≠ '=') with
      | (name, _ :: value) =>
        let value := (Escapes.programText.replaced (String.ofList value)).1
        Scan.setGlobal (String.ofList name) (.ofInput value)
      | _ => return

end Scanning

-- Programs for records are given as an argument or in files.
def scanTool (tool : String) (fuel : Nat) (run : RunProgram) (args : List String) : Work Nat := do
  match OptionForm.parse Scanning.forms false args with
  | .error text =>
    let wrong := args.find? fun a =>
      a.startsWith "-" && !Scanning.forms.any fun f => (a.toList.drop 1).head? = some f.letter
    toolComplain tool (wrong.elim text ("not an option: " ++ ·))
    return 2
  | .ok g =>
    if let some o := g.options.find? fun o => o.1 = 'v' && !o.2.contains '=' then
      toolComplain tool ("improper assignment: -v " ++ o.2)
      return 2
    let files := (g.options.filter (·.1 = 'f')).map (·.2)
    match ← Scanning.programText tool files with
    | none => return 2
    | some texts =>
      let (text, operands) := if files.isEmpty then (g.operands.headD "", g.operands.drop 1)
        else ("\n".intercalate texts, g.operands)
      if files.isEmpty && g.operands.isEmpty then
        complainLine "Usage: mawk [Options] [Program] [file ...]"
        return 0
      match Scan.Program.parse text with
      | .error message =>
        toolComplain tool ("line 1: " ++ message)
        return 2
      | .ok p =>
        let state := { Scanning.globals tool operands (← get).environment with
          name := tool
          functions := p.functions }
        let act : Scan.Act Unit := do
          Scanning.preset g
          Scan.runProgram run fuel p
        let (_, after) ← act.run.run state
        if after.input.any (!·.isEmpty) then satisfy 0
        return after.status

end Rulebook.Script
