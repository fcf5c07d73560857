import Rulebook.Script.Builtin.Table
import Rulebook.Script.Grammar
import Rulebook.Script.Route
import Rulebook.Script.Tool.Table

namespace Rulebook.Script

-- What commands do.

-- A loop goes on, or is left.
inductive Turn
  | next
  | leave
  deriving DecidableEq

-- What becomes of a loop after its body: loops may be left or go on from inside.
def turn : Work Turn := do
  let s ← get
  let more (n : Nat) (flow : Nat → Flow) : Flow := if n ≤ 1 then .on else flow (n - 1)
  match s.flow with
  | .on => return .next
  | .continuing n =>
    set { s with flow := more n .continuing }
    return if n ≤ 1 then .next else .leave
  | .breaking n =>
    set { s with flow := more n .breaking }
    return .leave
  | _ => return .leave

-- Do something inside of one loop more.
def inLoop (act : Work Unit) : Work Unit := do
  modify fun s => { s with loops := s.loops + 1 }
  act
  modify fun s => { s with loops := s.loops - 1 }

-- The commands that take assignments as arguments.
def isDeclaring (words : List String) : Bool :=
  match words.dropWhile (· = "command") with
  | name :: _ => name ∈ ["export", "readonly", "local"]
  | [] => false

-- The texts that the words of a command stand for. From some command on, words may be assignments.
def commandFields (run : RunOutput) : (before : List String) → List Word → Work (List String)
  | before, [] => return before
  | before, w :: ws => do
    let fields ←
      match isDeclaring before, assignment? w with
      | true, some (name, value) => do
        let text ← assignedText run value
        pure [name ++ "=" ++ text]
      | _, _ => wordFields run w
    if ← isOn then commandFields run (before ++ fields) ws else return []

-- The options between the word that asks for a command and the command: whether programs are
-- looked for in the usual folders, and whether the command is only told.
structure Asking where
  words : List String
  asked : Bool := false
  usual : Bool := false
  -- how a command is told
  tells : Option Char := none

def Asking.ofWords : (fuel : Nat) → Asking → Asking
  | 0, a => a
  | fuel + 1, a =>
    match a.words with
    | "command" :: rest =>
      let asked : Asking := { a with asked := true }
      match rest with
      | "--" :: words => Asking.ofWords fuel { asked with words := words }
      | "-p" :: words => Asking.ofWords fuel { asked with words := words, usual := true }
      | "-v" :: words => { asked with words := words, tells := some 'v' }
      | "-V" :: words => { asked with words := words, tells := some 'V' }
      | words => Asking.ofWords fuel { asked with words := words }
    | _ => a

-- What is tried out with the names of variables and their values.
def assignAll (run : RunOutput) (local? : Bool) (exported : Bool) : List (String × Word) →
    Work (List (String × String))
  | [] => return []
  | (name, w) :: as => do
    let value ← assignedText run w
    if ← isOn then
      if (← get).known? name |>.any (·.fixed) then
        failWith (name ++ ": is read only")
        return []
      else
        modify fun s =>
          let s := s.assign name value
          if local? || exported then
            s.setVariable name { (s.known? name).getD {} with exported := true }
          else s
        return (name, value) :: (← assignAll run local? exported as)
    else return []

-- Show a command that is about to be called, where the streams lead before it.
def trace (before : List (Nat × Opened)) (assigned : List (String × String))
    (words : List String) : Work Unit := do
  let s ← get
  if s.option 'x' then
    let texts := assigned.map (fun (name, value) => name ++ "=" ++ value) ++ words
    set { s with streams := before }
    complainLine (s.value "PS4" ++ " ".intercalate texts)
    modify fun t => { t with streams := s.streams }

-- The body of the first case that fits a text, if there is one.
def chosen? (run : RunOutput) (text : String) :
    List (List Word × Option Command) → Work (Option Command)
  | [] => return none
  | (patterns, body) :: cases => do
    if ← patterns.anyM fun p => do
      if ← isOn then return (← wordPattern run p).fits text.toList else return false
    then return body
    else if ← isOn then chosen? run text cases
    else return none

-- The words after the marks in the first line of a script that tell what runs it.
def interpreter? (text : String) : Option (List String) :=
  match text.toList with
  | '#' :: '!' :: r =>
    let line := (r.takeWhile (· ≠ '\n')).dropWhile fun c => c = ' ' || c = '\t'
    let (program, rest) := line.span fun c => c ≠ ' ' && c ≠ '\t'
    let argument := rest.dropWhile fun c => c = ' ' || c = '\t'
    some (String.ofList program ::
      if argument.isEmpty then [] else [String.ofList argument])
  | _ => none

-- A shell of its own takes nothing from this one but what programs get.
def Shell.anew (s : Shell) : Shell :=
  { s with
    bindings := s.bindings.filter (·.2.exported)
    functions := []
    aliases := []
    arguments := []
    options := []
    status := 0
    line := 0
    loops := 0
    inFunction := false
    scopes := []
    lastJob := none
    texts := []
    scriptPid := s.pid
    optionIndex := 1
    optionOffset := 0 }

-- What a shell is called with.
structure Invocation where
  name : String
  -- the script itself, or the file with it
  script : Option String := none
  file : Option String := none
  arguments : List String := []

-- A shell's own variables. The process that has started it is known by its number.
def setUp (parent : Nat) : Work Unit := do
  let s ← get
  let own : List (String × String) :=
    [("IFS", " \t\n"), ("OPTIND", "1"), ("PS1", "# "), ("PS2", "> "), ("PS4", "+ "),
     ("PPID", toString parent)]
  set (own.foldl (fun s (name, v) => s.setVariable name { value := some v }) s)
  modify fun s =>
    if (s.known? "PATH").isSome then s else s.setVariable "PATH" { value := some usualPath }
  modify fun s => s.setVariable "PWD" { (s.known? "PWD").getD {} with value := some s.folder }

-- What follows the options of a shell.
def invocation (name : String) (asksScript : Bool) (rest : List String) : Work Invocation := do
  if asksScript then
    match rest with
    | [] =>
      failWith "-c requires an argument"
      return { name := name }
    | script :: rest =>
      return { name := rest.headD name, script := some script, arguments := rest.tail }
  else if (← get).option 's' then return { name := name, arguments := rest }
  else
    match rest with
    | [] =>
      modify (·.setOption 's' true)
      return { name := name }
    | file :: args => return { name := file, file := some file, arguments := args }

-- The text of a script. There is none in a folder.
def readScript (file : String) : Work (Except Refusal String) := do
  match ← readNamed file with
  | .error .isFolder => return .ok ""
  | text => return text

-- The letters in front of a shell's arguments. One of them asks for a script.
def withoutScriptLetter (args : List String) : Bool × List String :=
  match args with
  | a :: rest =>
    match a.toList with
    | '-' :: '-' :: _ => (false, args)
    | '-' :: c :: letters =>
      let asks := 'c' ∈ c :: letters
      let others := (c :: letters).filter fun c => c ≠ 'c' && c ≠ 'l'
      let takesName := 'o' ∈ others
      let (more, after) :=
        if takesName then
          let (more, after) := withoutScriptLetter rest.tail
          (more, rest.take 1 ++ after)
        else withoutScriptLetter rest
      (asks || more, (if others.isEmpty then after else String.ofList ('-' :: others) :: after))
    | '+' :: _ =>
      let (more, after) := withoutScriptLetter rest
      (more, a :: after)
    | _ => (false, args)
  | [] => (false, args)
termination_by args.length
decreasing_by all_goals (simp only [List.length_cons, List.length_tail] at *; omega)

-- A job in the background reads nothing and is not interrupted.
def Shell.inBackground (s : Shell) : Shell :=
  let quiet := ["INT", "QUIT"].foldl (fun ts n => Machine.put n "" ts) s.traps
  let (n, m) := s.machine.fresh
  ({ s with traps := quiet, machine := m }).setStream 0
    { number := n, device := .nothing, reads := true, writes := false }

-- A script that comes from the input is read in blocks of so many bytes. The commands in a block
-- may read what follows it.
def blockSize : Nat := 8192

def Reading.longer (r : Reading) : Work Reading := do
  match ← readPart 0 fun cs => min blockSize cs.length with
  | .ok (c :: cs) => return { r with rest := r.rest ++ c :: cs }
  | _ => return { r with continues := false }

namespace Evaluation

-- Fuel bounds the number of nested calls and of the rounds of loops. Without fuel no end is known.
-- The program of a command that is about to run in a process of its own is found before that.
def foresee (command : Command) : Work Unit := do
  match command with
  | .simple _ _ ([.text name false] :: _) _ =>
    let s ← get
    let isOther := name ∈ builtinNames || (s.functions.lookup name).isSome || !isName name
    if !isOther && (programFile? s (s.value "PATH") name).isOk then modify (·.find name)
  | _ => return

mutual

-- Run a command. Where its failure is tested by another one, it does not end the script.
def run : (fuel : Nat) → (tested : Bool) → Command → Work Unit
  | 0, _, _ => setFlow .endless
  | fuel + 1, tested, command => do
    runTraps fuel
    if (← isOn) && !(← get).option 'n' then
      match command with
      | .simple line assignments words redirections =>
        simple fuel tested line assignments words redirections
        check tested
      | .pipe commands =>
        pipeline fuel tested commands
        check tested
      | .sequence first second =>
        run fuel tested first
        run fuel tested second
      | .onSuccess first second =>
        run fuel true first
        if (← isOn) && (← get).status = 0 then run fuel tested second
      | .onFailure first second =>
        run fuel true first
        if (← isOn) && (← get).status ≠ 0 then run fuel tested second
      | .negated command =>
        run fuel true command
        if ← isOn then modify fun s => { s with status := if s.status = 0 then 1 else 0 }
      | .background line command =>
        modify fun s => { s with line := line }
        startJob (do
          modify Shell.inBackground
          run fuel false command
          finish fuel
          let _ ← settleAll)
        setStatus 0
      | .subshell line command redirections =>
        modify fun s => { s with line := line }
        let ending ← inChild (do
          let routes ← Route.ofRedirections (outputOf fuel) redirections
          if ← isOn then
            if ← Route.takeAll (outputOf fuel) false [] routes then run fuel tested command
            else
              setStatus 2
              giveUp
          finish fuel)
        ending.count
        check tested
      | .redirected line command redirections =>
        modify fun s => { s with line := line }
        let routes ← Route.ofRedirections (outputOf fuel) redirections
        if ← isOn then
          Route.around (outputOf fuel) routes (run fuel tested command) (do
            setStatus 2
            check tested)
      | .branch test success failure =>
        run fuel true test
        if ← isOn then
          if (← get).status = 0 then run fuel tested success
          else
            match failure with
            | some command => run fuel tested command
            | none => setStatus 0
      | .loop whileSuccess test body =>
        inLoop (rounds fuel tested whileSuccess test body 0)
      | .each line name words body =>
        modify fun s => { s with line := line }
        let values ←
          match words with
          | some ws => commandFields (outputOf fuel) [] ws
          | none => pure (← get).arguments
        if ← isOn then
          if values.isEmpty then setStatus 0
          else inLoop (each fuel tested name values body)
      | .choice line subject cases =>
        modify fun s => { s with line := line }
        let text ← wordText (outputOf fuel) subject
        if ← isOn then
          match ← chosen? (outputOf fuel) text cases with
          | some body => run fuel tested body
          | none => if ← isOn then setStatus 0
      | .function name body =>
        modify fun s => { s with functions := Machine.put name body s.functions, status := 0 }
      runTraps fuel
where
  -- A failure that nobody tests may end the script.
  check (tested : Bool) : Work Unit := do
    let s ← get
    if s.isOn && !tested && s.status ≠ 0 && s.option 'e' then endWith s.status

-- The rounds of a loop. Its status is that of the last round.
def rounds : (fuel : Nat) → (tested whileSuccess : Bool) → (test body : Command) →
    (last : Nat) → Work Unit
  | 0, _, _, _, _, _ => setFlow .endless
  | fuel + 1, tested, whileSuccess, test, body, last => do
    run fuel true test
    let s ← get
    if !s.isOn then
      match ← turn with
      | .next => rounds fuel tested whileSuccess test body last
      | .leave =>
        if (← get).isOn then setStatus last
    else if (s.status == 0) = whileSuccess then
      run fuel tested body
      let last := (← get).status
      match ← turn with
      | .next => rounds fuel tested whileSuccess test body last
      | .leave => return
    else setStatus last

-- A body for each value of a variable.
def each : (fuel : Nat) → (tested : Bool) → (name : String) → List String → (body : Command) →
    Work Unit
  | 0, _, _, _, _ => setFlow .endless
  | _ + 1, _, _, [], _ => return
  | fuel + 1, tested, name, value :: values, body => do
    assignValue name value
    if ← isOn then
      run fuel tested body
      if (← turn) = .next then each fuel tested name values body

-- Commands that read from one another. When a reader has not got enough of what another one would
-- write without end, they start again with more room between them.
def pipeline : (fuel : Nat) → (tested : Bool) → List Command → Work Unit
  | 0, _, _ => setFlow .endless
  | fuel + 1, tested, commands => do
    let before ← get
    stages fuel tested none commands
    if before.machine.room = firstRoom then
      let again (room : Nat) : Work Unit := do
        set { before with machine := { before.machine with room := room } }
        stages fuel tested none commands
      if (← get).machine.starved then again moreRoom
      if (← get).machine.unfed then again lastRoom
      modify fun s => { s with
        machine := { s.machine with room := firstRoom, starved := false, unfed := false } }

-- Commands that read from one another, each in a process of its own. The last one tells the
-- status.
def stages : (fuel : Nat) → (tested : Bool) → (input : Option Nat) → List Command → Work Unit
  | 0, _, _, _ => setFlow .endless
  | _ + 1, _, _, [] => return
  | fuel + 1, tested, input, command :: rest => do
    let output? ←
      if rest.isEmpty then pure none
      else do
        let (n, m) := (← get).machine.newPipe
        setMachine m
        pure (some n)
    foresee command
    let ending ← inChild (do
      match input with
      | some n => modify (·.setStream 0 { number := n, device := .pipe n, writes := false })
      | none => pure ()
      match output? with
      | some n => modify (·.setStream 1 { number := n, device := .pipe n, reads := false })
      | none => pure ()
      run fuel tested command
      finish fuel
      let _ ← settleAll)
    match input with
    | some n => modify fun s => { s with machine := s.machine.leavePipe n output? }
    | none => pure ()
    if rest.isEmpty then ending.count
    else stages fuel tested output? rest

-- What commands write to their output, in a process of their own.
def outputOf : (fuel : Nat) → Option Command → Work String
  | 0, _ => do
    setFlow .endless
    return ""
  | _ + 1, none => return ""
  | fuel + 1, some command => do
    let (n, m) := (← get).machine.newPipe
    setMachine (m.setBound n false)
    let ending ← inChild (do
      modify (·.setStream 1 { number := n, device := .pipe n, reads := false })
      run fuel false command
      finish fuel
      let _ ← settleAll)
    ending.tell
    let s ← get
    let text := String.ofList (s.machine.pipeContent n)
    set { s with machine := s.machine.dropPipe n, outputStatus := ending.status }
    return text

-- The traps of signals that have come in.
def runTraps : (fuel : Nat) → Work Unit
  | 0 => setFlow .endless
  | fuel + 1 => do
    let s ← get
    if s.isOn then
      match s.caught with
      | [] => return
      | name :: rest =>
        match s.traps.lookup name with
        | some text =>
          if s.depth ≥ depthLimit then return ← setFlow .endless
          set { s with caught := rest, trapStatus := some s.status, depth := s.depth + 1 }
          let _ ← script fuel false (Reading.ofText text) 0
          modify fun t => { t with
            trapStatus := s.trapStatus
            depth := s.depth
            status := if t.isOn then s.status else t.status }
        | none => set { s with caught := rest }
        runTraps fuel

-- What a shell does when it ends.
def finish : (fuel : Nat) → Work Unit
  | 0 => setFlow .endless
  | fuel + 1 => do
    let s ← get
    match s.flow with
    | .killed _ | .endless => return
    | _ =>
      match s.traps.lookup "EXIT" with
      | some text =>
        set { s with
          flow := .on, running := none, traps := Machine.drop "EXIT" s.traps
          trapStatus := some s.status }
        let _ ← script fuel false (Reading.ofText text) 0
        modify fun t => { t with
          status := if t.flow = .failed then t.status else t.trapStatus.getD s.status
          flow := if t.flow matches .killed _ | .endless then t.flow else .ended }
      | none => setFlow .ended

-- A script, line by line. The result is the status of its last command.
def script : (fuel : Nat) → (tested : Bool) → Reading → (last : Nat) → Work Nat
  | 0, _, _, _ => do
    setFlow .endless
    return 0
  | fuel + 1, tested, r, last => do
    let s ← get
    let r := { r with aliases := s.aliases, number := s.textNumber }
    let next := (scriptLine (readingFuel r)).run r
    if r.continues && r.isOpen next then script fuel tested (← r.longer) last
    else match next with
    | .error e =>
      modify fun s => { s with line := e.line }
      failWith e.message
      return 2
    | .ok (line, r) =>
      set { s with texts := r.texts ++ s.texts, textNumber := r.number }
      let r := { r with texts := [] }
      match line with
      | .finish => return last
      | .empty => script fuel tested r last
      | .commands command =>
        run fuel tested command
        let s ← get
        if s.isOn then script fuel tested r s.status else return s.status

-- A command with its assignments and redirections.
def simple : (fuel : Nat) → (tested : Bool) → (line : Nat) → List (String × Word) →
    List Word → List Redirection → Work Unit
  | 0, _, _, _, _, _ => setFlow .endless
  | fuel + 1, tested, line, assignments, words, redirections => do
    modify fun s => { s with line := line, outputStatus := 0 }
    let fields ← commandFields (outputOf fuel) [] words
    if ← isOn then
      let asking := Asking.ofWords (fields.length + 1) { words := fields }
      let name := asking.words.headD ""
      let isFunction := !asking.asked && ((← get).functions.lookup name).isSome
      let special := !fields.isEmpty && !asking.asked && name ∈ reservedNames
      let replaces := name = "exec" && asking.tells.isNone
      let routes ← Route.ofRedirections (outputOf fuel) redirections
      if ← isOn then
        let before ← get
        if ← Route.takeAll (outputOf fuel) true [] routes then
          let temporary := !fields.isEmpty && !special
          let assigned ← assignAll (outputOf fuel) temporary
            (replaces && asking.words.length > 1) assignments
          if ← isOn then
            trace before.streams assigned fields
            if fields.isEmpty then modify fun s => { s with status := s.outputStatus }
            else if isFunction then callFunction fuel tested name asking.words.tail
            else call fuel tested asking special
            if temporary then
              modify fun s => (assigned.map (·.1)).eraseDups.foldl
                (fun s name => s.restore name (before.known? name)) s
          if !replaces then Route.giveBack before.streams routes
        else
          Route.giveBack before.streams routes
          setStatus 2
          if special then giveUp

-- A function has arguments and loops of its own.
def callFunction : (fuel : Nat) → (tested : Bool) → (name : String) → List String → Work Unit
  | 0, _, _, _ => setFlow .endless
  | fuel + 1, tested, name, args => do
    let before ← get
    match before.functions.lookup name with
    | none => return
    | some body =>
      if before.depth ≥ depthLimit then
        failWith "Maximum function recursion depth (1000) reached"
        return
      set { before with
        arguments := args
        optionIndex := 1
        optionOffset := 0
        loops := 0
        inFunction := true
        scopes := [] :: before.scopes
        depth := before.depth + 1 }
      run fuel tested body
      modify fun s =>
        let s := (s.scopes.headD []).foldl (fun s (name, v) => s.restore name v) s
        { s with
          arguments := before.arguments
          optionIndex := before.optionIndex
          optionOffset := before.optionOffset
          loops := before.loops
          inFunction := before.inFunction
          scopes := before.scopes
          depth := before.depth
          flow := if s.flow = .returning then .on else s.flow }

-- A command of the shell, or a program.
def call : (fuel : Nat) → (tested : Bool) → Asking → (special : Bool) → Work Unit
  | 0, _, _, _ => setFlow .endless
  | fuel + 1, tested, asking, special => do
    match asking.words with
    | [] => setStatus 0
    | name :: args =>
      if asking.asked && asking.tells.isNone && name.length > 1 && name.startsWith "-" then
        modify fun s => { s with running := some "command" }
        complain ("Illegal option " ++ String.ofList (name.toList.take 2))
        modify fun s => { s with running := none, status := 2 }
        return
      if asking.tells = some 'v' then tellShortly builtinNames name >>= setStatus
      else if asking.tells = some 'V' then
        let statuses ← (name :: args).mapM (describe builtinNames)
        setStatus (statuses.foldl max 0)
      else if name ∈ builtinNames then
        let before ← get
        set { before with running := some name, refusal := none }
        let status ← callBuiltin fuel tested name args
        let refused := (← get).refusal.isSome
        if refused then complain (name ++ ": I/O error")
        modify fun s =>
          let contained := s.flow = .failed && !special
          { s with
            running := before.running
            refusal := before.refusal
            status := if contained then 2 else if refused then status ||| 1 else status
            flow := if contained then .on else s.flow }
      else
        let s ← get
        let path := if asking.usual then "/usr/bin:/bin" else s.value "PATH"
        match programFile? s path name with
        | .error (text, status) =>
          complain (name ++ ": " ++ text)
          setStatus status
        | .ok file =>
          if !asking.usual then modify (·.find name)
          let ending ← inChild (program fuel file name args)
          ending.count

def callBuiltin : (fuel : Nat) → (tested : Bool) → (name : String) → List String → Work Nat
  | 0, _, _, _ => do
    setFlow .endless
    return 0
  | fuel + 1, tested, name, args => do
    match name with
    | "eval" =>
      let text := " ".intercalate args
      if text.isEmpty then return 0 else script fuel tested (Reading.ofText text) 0
    | "." =>
      match args with
      | [] => return 0
      | file :: _ =>
        let s ← get
        let path := if file.contains '/' then file
          else ((programPaths s (s.value "PATH") file).head?).getD ""
        if path.isEmpty then refuse (file ++ ": not found")
        else
          match ← readScript path with
          | .error e => refuse (Route.fault .read path e)
          | .ok text =>
            modify fun s => { s with running := some path }
            let status ← script fuel false (Reading.ofText text) 0
            modify fun s => { s with flow := if s.flow = .returning then .on else s.flow }
            return status
    | "exec" =>
      match args with
      | [] => return 0
      | name :: args =>
        let s ← get
        match programFile? s (s.value "PATH") name with
        | .error (text, status) =>
          complain (name ++ ": " ++ text)
          if ← isOn then endWith status
          return status
        | .ok file =>
          set { s with traps := s.traps.filter (·.2.isEmpty), running := none }
          program fuel file name args
          if ← isOn then endWith (← get).status
          return (← get).status
    | "command" => return 0
    | "type" => typeBuiltin builtinNames args
    | _ =>
      match builtins.lookup name with
      | some act => act args
      | none => return 127

-- A program in this process, which is its own.
def program : (fuel : Nat) → (file name : String) → List String → Work Unit
  | 0, _, _, _ => setFlow .endless
  | fuel + 1, file, name, args => do
    modify fun s => { s with
      machine := s.machine.letOthers, running := none, refusal := none }
    let s ← get
    if !s.isOn then return
    if !s.machine.isProgram file then
      match interpreter? (s.machine.content file) with
      | some (other :: front) =>
        match programFile? s "" other with
        | .ok other => program fuel other other (front ++ name :: args)
        | .error (text, status) =>
          complain (name ++ ": " ++ text)
          setStatus status
      | _ => shell fuel name (name :: args)
    else
      let tool := Machine.baseName file
      match tools.lookup tool, (startingTools fuel).lookup tool with
      | some act, _ => act args >>= endTool tool
      | none, some act => act (program fuel) args >>= endTool tool
      | none, none => shell fuel name args

-- A shell of its own.
def shell : (fuel : Nat) → (name : String) → List String → Work Unit
  | 0, _, _ => setFlow .endless
  | fuel + 1, name, args => do
    let parent := (← get).scriptPid
    modify fun s => { s.anew with name := name, running := none }
    setUp parent
    let (asksScript, args) := withoutScriptLetter args
    let (rest, _) ← setOptions args
    if ← isOn then
      let call ← invocation name asksScript rest
      if ← isOn then
        modify fun s => { s.setArguments call.arguments with name := call.name }
        let text ←
          match call.script, call.file with
          | some text, _ => pure (Except.ok text)
          | none, some file => readScript file
          | none, none => pure (Except.ok "")
        match text with
        | .error e =>
          match call.file with
          | some file =>
            modify fun s => { s with name := name }
            complain (Route.fault .read file e)
            setStatus 2
          | none => setStatus 0
        | .ok text =>
          modify fun s => { s with line := 1 }
          let isInput := call.script.isNone && call.file.isNone
          let _ ← script fuel false { Reading.ofText text with continues := isInput } 0
    finish fuel

end

end Evaluation

end Rulebook.Script
