import Rulebook.Script.Process
import Rulebook.Script.Tool.Host

namespace Rulebook.Script

-- Programs that start other ones.

-- A name is called as a program: its file, or what is wrong with it and the status for that.
def programFile? (s : Shell) (path name : String) : Except (String × Nat) String :=
  let runnable (p : String) : Except (String × Nat) String :=
    match s.machine.find s.folder p with
    | .ok (full, some (.file _ true)) => .ok full
    | .ok (_, some _) => .error (Refusal.denied.text, 126)
    | _ => .error ("not found", 127)
  if name.contains '/' then runnable name
  else
    let tried := (programPaths s path name).map runnable
    match tried.find? fun r => r matches .ok _ with
    | some r => r
    | none =>
      let isFolder := name.isEmpty && path.contains '/'
      tried.headD (.error (if isFolder then Refusal.denied.text else "not found", 127))

-- How a program in a file is run under a name in this process.
abbrev RunProgram := (file name : String) → List String → Work Unit

-- Start a program that another one asks for.
def start (run : RunProgram) (tool name : String) (args : List String) : Work Nat := do
  let s ← get
  match programFile? s ((s.value? "PATH").getD "/bin:/usr/bin") name with
  | .ok file =>
    run file name args
    return (← get).status
  | .error (_, status) =>
    let reason := if status = 126 then Refusal.denied.text else Refusal.noEntry.text
    let what := if tool = "env" then quoted name ++ ": "
      else if tool = "xargs" then name ++ ": "
      else "failed to run command " ++ quoted name ++ ": "
    toolComplain tool (what ++ reason)
    return status

-- A command reads a text, and what it writes is caught.
structure Piping where
  input : Option String := none
  catches : Bool := false

-- Run a command in a shell, with what it writes and its status.
def pipeCommand (start : RunProgram) (piping : Piping) (text : String) : Work (String × Nat) := do
  let (source, m) := (← get).machine.newPipe
  let (target, m) := m.newPipe
  setMachine ((m.pushPipe source (piping.input.getD "")).setBound target false)
  let ending ← inChild (do
    if piping.input.isSome then
      modify (·.setStream 0 { number := source, device := .pipe source, writes := false })
    if piping.catches then
      modify (·.setStream 1 { number := target, device := .pipe target, reads := false })
    start "/bin/sh" "sh" ["-c", text])
  let s ← get
  let output := String.ofList (s.machine.pipeContent target)
  set { s with machine := (s.machine.dropPipe source).dropPipe target }
  return (output, ending.status)

-- A program with other variables, or a list of them.
def envTool (run : RunProgram) : List String → Work Nat
  | [] => do
    print (String.join ((← get).environment.map fun (n, v) => n ++ "=" ++ v ++ "\n"))
    return 0
  | "-u" :: name :: args => do
    modify fun s => { s with bindings := Machine.drop name s.bindings }
    envTool run args
  | a :: args => do
    if a = "-i" || a = "-" then
      modify fun s => { s with bindings := [] }
      envTool run args
    else if a = "--" then envTool run args
    else if a.startsWith "-" then
      misuse "env" ("invalid option -- '" ++ String.ofList ((a.toList.drop 1).take 1) ++ "'") 125
    else
      match a.toList.span (· ≠ '=') with
      | (name, '=' :: value) =>
        modify fun s => s.setVariable (String.ofList name)
          { value := some (String.ofList value), exported := true }
        envTool run args
      | _ => start run "env" a args

namespace Gathering

def forms : List OptionForm :=
  [⟨'0', "null", .nothing⟩, ⟨'d', "delimiter", .value⟩, ⟨'n', "max-args", .value⟩,
   ⟨'L', "max-lines", .value⟩, ⟨'l', "", .joined⟩, ⟨'I', "", .value⟩,
   ⟨'i', "replace", .joined⟩, ⟨'r', "no-run-if-empty", .nothing⟩, ⟨'t', "verbose", .nothing⟩,
   ⟨'P', "max-procs", .value⟩, ⟨'s', "max-chars", .value⟩, ⟨'x', "exit", .nothing⟩,
   ⟨'a', "arg-file", .value⟩, ⟨'E', "", .value⟩, ⟨'e', "", .joined⟩]

-- A character with what it is for: a part of an item, or something between items.
inductive Mark
  | part (c : Char)
  | item
  | blank (c : Char)
  | lineEnd
  deriving DecidableEq

def Mark.isBlank : Mark → Bool
  | blank _ => true
  | _ => false

-- The marks of a text with quotes and backslashes, or those before a quote that is not closed.
-- White space in front of an item does not count.
def marks? : (fuel : Nat) → (inItem : Bool) → List Char → List Mark × Option Char
  | 0, _, _ | _ + 1, _, [] => ([], none)
  | fuel + 1, inItem, c :: r =>
    let go (ms : List Mark) (inItem : Bool) (r : List Char) : List Mark × Option Char :=
      let (more, wrong) := marks? fuel inItem r
      (ms ++ more, wrong)
    if c = '\\' then
      match r with
      | d :: r => go [.part d] true r
      | [] => ([], none)
    else if c = '\'' || c = '"' then
      match r.span (· ≠ c) with
      | (inside, _ :: r) =>
        if '\n' ∈ inside then ([], some c) else go (.item :: inside.map .part) true r
      | (_, []) => ([], some c)
    else if c = '\n' then go [.lineEnd] false r
    else if c = ' ' || c = '\t' || (isSpace c && !inItem) then go [.blank c] false r
    else go [.part c] true r

-- The items between blanks and line ends. Characters come last first.
def itemsOf : (item : Option (List Char)) → List Mark → List String
  | some item, [] => [String.ofList item.reverse]
  | none, [] => []
  | item, .part c :: r => itemsOf (some (c :: item.getD [])) r
  | item, .item :: r => itemsOf (some (item.getD [])) r
  | some item, _ :: r => String.ofList item.reverse :: itemsOf none r
  | none, _ :: r => itemsOf none r

-- The lines of marks that are not empty, without blanks in front.
def linesOf (ms : List Mark) : List (List Mark) :=
  ((ms.splitOn .lineEnd).map (·.dropWhile Mark.isBlank)).filter (!·.isEmpty)

-- The text of a line of marks.
def lineText (ms : List Mark) : String :=
  String.ofList <| ms.filterMap fun
    | .part c => some c
    | .blank c => some c
    | _ => none

-- A line that ends with a blank goes on in the next one.
def joined : List (List Mark) → List (List Mark)
  | l :: m :: ls =>
    if l.getLast?.any Mark.isBlank then joined ((l ++ m) :: ls) else l :: joined (m :: ls)
  | ls => ls
termination_by ls => ls.length

-- How many items a call has at most, how many lines of them, or what stands for an item in a call.
structure Plan where
  count : Option Nat := none
  lines : Option Nat := none
  mark : Option String := none
  size : Nat := 131072
  -- a call that is too long is wrong
  isStrict : Bool := false
  warnings : List String := []

namespace Plan

-- An option takes the place of others.
def warn (p : Plan) (isGiven : Bool) (first second : String) : Plan :=
  if isGiven then
    { p with warnings := p.warnings ++ ["warning: options " ++ first ++ " and " ++ second ++
      " are mutually exclusive, ignoring previous " ++ first ++ " value"] }
  else p

def number (letter : Char) (value : String) : Except String Nat :=
  let option := "-" ++ String.singleton letter ++ " option"
  match leadingInteger? 10 value.toList with
  | some (n, []) =>
    if n < 1 then .error ("value " ++ toString n ++ " for " ++ option ++ " should be >= 1")
    else .ok n.toNat
  | _ => .error ("invalid number \"" ++ value ++ "\" for " ++ option)

def withOption (p : Plan) (o : Char × String) : Except String Plan := do
  match o.1 with
  | 'n' =>
    let n ← number 'n' o.2
    if n = 1 && p.mark.isSome then return p
    let p := p.warn p.lines.isSome "--max-lines" "--max-args/-n"
    let p := p.warn p.mark.isSome "--replace" "--max-args/-n"
    return { p with count := some n, lines := none, mark := none }
  | 'L' | 'l' =>
    let n ← if o.2 = "" then pure 1 else number o.1 o.2
    let name := if o.1 = 'L' then "-L" else "--max-lines"
    let p := p.warn p.count.isSome "--max-args" name
    let p := p.warn p.mark.isSome "--replace" name
    return { p with lines := some n, count := none, mark := none, isStrict := true }
  | 'I' | 'i' =>
    let p := p.warn p.count.isSome "--max-args" "--replace/-I/-i"
    let p := p.warn p.lines.isSome "--max-lines" "--replace/-I/-i"
    let mark := if o.2 = "" then "\x7b\x7d" else o.2
    return { p with mark := some mark, count := none, lines := none, isStrict := true }
  | 's' => return { p with size := ← number 's' o.2 }
  | 'x' => return { p with isStrict := true }
  | _ => return p

end Plan

-- The character between items that an option tells.
def separator? (value : String) : Except String Char :=
  match value.toList with
  | [c] => .ok c
  | '\\' :: r =>
    let (text, _) := Escapes.programText.replaced (String.ofList ('\\' :: r))
    match text.toList with
    | [c] => .ok c
    | _ => .error value
  | _ => .error value

-- The items of the input in groups that are kept together, and a quote that is not closed.
def groups (p : Plan) (separator : Option Char) (text : String) :
    List (List String) × Option Char :=
  match separator with
  | some c =>
    let parts := (text.toList.splitOn c).map String.ofList
    ((if parts.getLast? = some "" then parts.dropLast else parts).map ([·]), none)
  | none =>
    let (ms, wrong) := marks? (text.length + 1) false text.toList
    let groups :=
      if p.mark.isSome then (linesOf ms).map fun l => [lineText l]
      else if p.lines.isSome then (joined (linesOf ms)).map (itemsOf none)
      else (itemsOf none ms).map ([·])
    -- what an open quote belongs to is dropped with it
    let isPart (m : Mark) : Bool :=
      match m with
      | .part _ | .item => true
      | .blank _ => p.mark.isSome
      | .lineEnd => false
    (if wrong.isSome && ms.getLast?.any isPart then groups.dropLast else groups, wrong)

-- Nothing behind an item that ends the input counts.
def upTo (last : Option String) (groups : List (List String)) : List (List String) :=
  match last with
  | some item => if item = "" then groups else groups.takeWhile fun g => g.head? ≠ some item
  | none => groups

def replaceAll (mark item : List Char) : (fuel : Nat) → List Char → List Char
  | 0, cs => cs
  | _ + 1, [] => []
  | fuel + 1, c :: r =>
    if mark.isPrefixOf (c :: r) then
      item ++ replaceAll mark item fuel ((c :: r).drop mark.length)
    else c :: replaceAll mark item fuel r

-- What a call needs.
def lengthOf (words : List String) : Nat :=
  words.foldl (fun n word => n + word.length + 1) 0

-- The groups of a call, of which the last one comes first, before other calls.
def withCall (call : List (List String)) (calls : List (List String)) : List (List String) :=
  if call.isEmpty then calls else call.reverse.flatten :: calls

-- Groups that go into one call each. Those of a call are kept last first, with their number and
-- what they need. Groups that do not fit end it all with a complaint.
def packed (p : Plan) (most : Option Nat) (base : Nat) : (call : List (List String)) →
    (count used : Nat) → List (List String) → List (List String) × Option String
  | call, _, _, [] => (withCall call [], none)
  | call, count, used, g :: gs =>
    let size := lengthOf g
    let isFull := most.any (· ≤ count)
    if !isFull && base + used + size ≤ p.size then
      packed p most base (g :: call) (count + 1) (used + size) gs
    else if !isFull && p.isStrict && most.isSome then ([], some "argument list too long")
    else if base + size > p.size then (withCall call [], some "argument line too long")
    else
      let (calls, wrong) := packed p most base [g] 1 size gs
      (withCall call calls, wrong)

-- The calls for groups of items, and why there are no more.
def calls (p : Plan) (onlyFilled : Bool) (command : List String) (groups : List (List String)) :
    List (List String) × Option String :=
  let command := if command.isEmpty then ["echo"] else command
  match p.mark with
  | some mark =>
    (groups.map fun items =>
      let item := (" ".intercalate items).toList
      let filled (s : String) : String :=
        String.ofList (replaceAll mark.toList item (s.length + 1) s.toList)
      command.take 1 ++ (command.drop 1).map filled, none)
  | none =>
    if groups.isEmpty then (if onlyFilled then [] else [command], none)
    else
      let most := p.count.orElse fun _ => p.lines
      let (parts, wrong) := packed p most (lengthOf command) [] 0 0 groups
      (parts.map (command ++ ·), wrong)

end Gathering

-- Programs one after the other. Some ends of them end it all.
def startEach (run : RunProgram) (shows : Bool) : (status : Nat) → List (List String) → Work Nat
  | status, [] => return status
  | status, [] :: rest => startEach run shows status rest
  | status, (name :: args) :: rest => do
    if shows then complainLine (" ".intercalate ((name :: args).map ShellWord.asNeeded))
    let s ← get
    match programFile? s (s.value "PATH") name with
    | .error (_, status) =>
      let _ ← inChild (do
        let _ ← start run "xargs" name args)
      return status
    | .ok _ =>
      let ending ← inChild (do
        let nothing ← openDevice .nothing .read
        modify (·.setStream 0 nothing)
        let status ← start run "xargs" name args
        setStatus status)
      if !(← isOn) then return status
      match ending with
      | .killed n =>
        toolComplain "xargs" (name ++ ": terminated by signal " ++ toString n)
        return 125
      | .exited 255 =>
        toolComplain "xargs" (name ++ ": exited with status 255; aborting")
        return 124
      | .exited n => startEach run shows (if n = 0 then status else 123) rest

open Gathering in
-- A program that is called with what the input holds.
def xargsTool (run : RunProgram) (args : List String) : Work Nat := do
  match OptionForm.parse Gathering.forms false args with
  | .error text => misuse "xargs" text 1
  | .ok g =>
    match g.options.foldlM Plan.withOption ({} : Plan) with
    | .error text => misuse "xargs" text 1
    | .ok p =>
      for text in p.warnings do toolComplain "xargs" text
      match (g.options.reverse.find? fun o => o.1 = '0' || o.1 = 'd').mapM fun o =>
          if o.1 = '0' then .ok '\x00' else separator? o.2 with
      | .error value =>
        toolComplain "xargs" ("Invalid input delimiter specification " ++ value ++
          ": the delimiter must be either a single character or an escape sequence starting " ++
          "with \\.")
        return 1
      | .ok separator =>
        let text ← readNamed ((g.value? 'a').getD "-")
        -- the first calls do not wait for the rest of the input
        if p.count.isSome || p.lines.isSome || p.mark.isSome then satisfy 0
        let (groups, openQuote) := groups p separator (text.toOption.getD "")
        let ended := if separator.isSome then groups else upTo (g.value? 'E') groups
        let (calls, wrong) := calls p (g.has 'r' || openQuote.isSome) g.operands ended
        if let some c := openQuote then
          toolComplain "xargs" ("unmatched " ++ (if c = '"' then "double" else "single") ++
            " quote; by default quotes are special to xargs unless you use the -0 option")
        let status ← startEach run (g.has 't') 0 calls
        if let some text := wrong then toolComplain "xargs" text
        return if openQuote.isSome || wrong.isSome || !text.isOk then 1 else status

-- A program that is stopped when its time is over.
def timeoutTool (run : RunProgram) (args : List String) : Work Nat := do
  let forms : List OptionForm :=
    [⟨'s', "signal", .value⟩, ⟨'k', "kill-after", .value⟩, ⟨'v', "verbose", .nothing⟩,
     ⟨'φ', "foreground", .nothing⟩, ⟨'π', "preserve-status", .nothing⟩]
  match OptionForm.parse forms false args with
  | .error text => misuse "timeout" text 125
  | .ok g =>
    match g.operands with
    | time :: name :: args =>
      match duration? time with
      | none => misuse "timeout" ("invalid time interval " ++ quoted time) 125
      | some n =>
        let before ← get
        let deadline := if n = 0 then before.deadline else some (before.machine.clock + n)
        set { before with deadline := deadline }
        let ending ← inChild (do
          let status ← start run "timeout" name args
          setStatus status)
        let s ← get
        let isLate := n > 0 && !s.isOn
        set { s with deadline := before.deadline, flow := if isLate then before.flow else s.flow }
        if !isLate then
          if let .killed signal := ending then setFlow (.killed signal)
          return ending.status
        else if g.has 'π' then return 143
        else return if (g.value? 's').any (· ∈ ["KILL", "SIGKILL", "9"]) then 137 else 124
    | _ =>
      usageHint "timeout"
      return 125

-- The command of a program that only starts it, behind its options.
def startedBy (tool : String) : List String → List String
  | a :: args =>
    if (tool = "nice" && a = "-n") || (tool = "stdbuf" && a ∈ ["-o", "-i", "-e"]) then args.drop 1
    else if a.startsWith "-" then startedBy tool args
    else a :: args
  | [] => []

def plainStart (tool : String) (run : RunProgram) (args : List String) : Work Nat := do
  match startedBy tool args with
  | name :: args => start run tool name args
  | [] =>
    if tool = "nice" then
      printLine "0"
      return 0
    else misuse tool "missing operand" 125

end Rulebook.Script
