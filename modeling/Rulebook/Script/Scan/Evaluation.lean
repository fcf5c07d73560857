import Rulebook.Script.Scan.Reader
import Rulebook.Script.Scan.State
import Rulebook.Script.Tool.Starting

namespace Rulebook.Script.Scan

-- What programs for records do.

-- Commands

def runCommand (start : RunProgram) (piping : Piping) (text : String) : Act (String × Nat) := do
  flush
  let result ← onShell (pipeCommand start piping text)
  if !(← onShell get).isOn then throw .halted
  return result

-- Close what was opened under a name. The result is the status of a command.
def close (start : RunProgram) (name : String) : Act Int := do
  let s ← get
  match s.commands.lookup name with
  | some pieces =>
    set { s with commands := Machine.drop name s.commands }
    let piping : Piping := { input := some (String.join pieces.reverse) }
    let (_, status) ← onShell (pipeCommand start piping name)
    if !(← onShell get).isOn then throw .halted
    return status
  | none =>
    if name ∈ s.files then
      set { s with files := s.files.filter (· ≠ name) }
      return 0
    else if (s.sources.lookup name).isSome then
      set { s with sources := Machine.drop name s.sources }
      return 0
    else return -1

-- Close everything, the command that was started last first.
def closeAll (start : RunProgram) : (fuel : Nat) → Act Unit
  | 0 => return
  | fuel + 1 => do
    match (← get).commands with
    | [] => flush
    | (name, _) :: _ =>
      let _ ← close start name
      closeAll start fuel

-- What does not need other expressions

-- The value of a function of one number.
def ofNumber? (name : String) (x : Float) : Option Float :=
  [("sin", x.sin), ("cos", x.cos), ("exp", x.exp), ("log", x.log), ("sqrt", x.sqrt),
   ("int", if x < 0.0 then x.ceil else x.floor)].lookup name

def regexOfText (s : String) : Act Regex := do
  match Regex.parse { extended := true, controls := true, lenient := true } s with
  | .ok r => return r
  | .error e => throw (.failed ("regular expression compile failed (" ++ e ++ ")\n" ++ s))

def fillFormat (caller format : String) (vs : List Value) : Act String := do
  match fill? format (← numberFormat) (format.length + 1) format.toList vs with
  | some text => return text
  | none =>
    throw (.failed ("not enough arguments passed to " ++ caller ++ "(\"" ++ format ++ "\")"))

mutual

def eval (start : RunProgram) : (fuel : Nat) → Expr → Act Value
  | 0, _ => throw .endless
  | fuel + 1, e => do
    match e with
    | .number x => return .number x
    | .text s => return .text s
    | .regex r => return .ofBool (r.isIn (subject (← get).record))
    | .name n => named n
    | .item array subscripts => do
      let name ← subscript start fuel subscripts
      element (← tableOf array) name
    | .field e => do field (← fieldIndex (← eval start fuel e))
    | .assign target operator value => do
      let v ← eval start fuel value
      match operator with
      | none => assign start fuel target v
      | some o => update start fuel target fun old => .number (o.apply old.toNumber v.toNumber)
    | .step target up before => do
      let one : Float := if up then 1.0 else -1.0
      let new ← update start fuel target fun old => .number (old.toNumber + one)
      return if before then new else .number (new.toNumber - one)
    | .negated e => return .ofBool !(← eval start fuel e).isTrue
    | .signed minus e => do
      let x := (← eval start fuel e).toNumber
      return .number (if minus then -x else x)
    | .arithmetic o a b => do
      let x ← eval start fuel a
      let y ← eval start fuel b
      return .number (o.apply x.toNumber y.toNumber)
    | .joined a b => do
      let x ← evalText start fuel a
      let y ← evalText start fuel b
      return .text (x ++ y)
    | .compared c a b => do
      let x ← eval start fuel a
      let y ← eval start fuel b
      return .ofBool (Value.compare (← numberFormat) c x y)
    | .fits a b there => do
      let s ← evalText start fuel a
      let r ← evalRegex start fuel b
      return .ofBool (r.isIn (subject s) == there)
    | .both a b => do
      if (← eval start fuel a).isTrue then return .ofBool (← eval start fuel b).isTrue
      else return .ofBool false
    | .either a b => do
      if (← eval start fuel a).isTrue then return .ofBool true
      else return .ofBool (← eval start fuel b).isTrue
    | .choice test success failure => do
      if (← eval start fuel test).isTrue then eval start fuel success
      else eval start fuel failure
    | .member subscripts array => do
      let name ← subscript start fuel subscripts
      return .ofBool ((← elements (← tableOf array)).lookup name).isSome
    | .call function args => callFunction start fuel function args
    | .builtin name args => callBuiltin start fuel name args
    | .grouped es => do
      let vs ← evalAll start fuel es
      return vs.getLast?.getD .missing
    | .readLine source from? target => readLine start fuel source from? target

def evalAll (start : RunProgram) : (fuel : Nat) → List Expr → Act (List Value)
  | 0, _ => throw .endless
  | _ + 1, [] => return []
  | fuel + 1, e :: es => do
    let v ← eval start fuel e
    return v :: (← evalAll start fuel es)

def evalText (start : RunProgram) : (fuel : Nat) → Expr → Act String
  | 0, _ => throw .endless
  | fuel + 1, e => do textOf (← eval start fuel e)

-- An expression as something to be fitted.
def evalRegex (start : RunProgram) : (fuel : Nat) → Expr → Act Regex
  | 0, _ => throw .endless
  | fuel + 1, e => do
    match e with
    | .regex r => return r
    | e => regexOfText (← evalText start fuel e)

-- The name of an element.
def subscript (start : RunProgram) : (fuel : Nat) → List Expr → Act String
  | 0, _ => throw .endless
  | fuel + 1, es => do
    let texts ← (← evalAll start fuel es).mapM textOf
    return (← globalText "SUBSEP").intercalate texts

-- Give something a value, which is the result.
def assign (start : RunProgram) : (fuel : Nat) → Expr → Value → Act Value
  | 0, _, _ => throw .endless
  | fuel + 1, target, v => do
    match target with
    | .name n =>
      setNamed n v
      return v
    | .item array subscripts =>
      let name ← subscript start fuel subscripts
      putElement (← tableOf array) name v
      return v
    | .field e =>
      let i ← fieldIndex (← eval start fuel e)
      setField i (← textOf v)
      return v
    | .grouped [e] => assign start fuel e v
    | _ => throw (.failed "syntax error")

-- Give something a value that depends on what it was before.
def update (start : RunProgram) : (fuel : Nat) → Expr → (Value → Value) → Act Value
  | 0, _, _ => throw .endless
  | fuel + 1, target, change => do
    match target with
    | .name n =>
      let v := change (← named n)
      setNamed n v
      return v
    | .item array subscripts =>
      let name ← subscript start fuel subscripts
      let n ← tableOf array
      let v := change (← element n name)
      putElement n name v
      return v
    | .field e =>
      let i ← fieldIndex (← eval start fuel e)
      let v := change (← field i)
      setField i (← textOf v)
      return v
    | .grouped [e] => update start fuel e change
    | _ => throw (.failed "syntax error")

-- What an argument that is just a name is bound to. It may turn out to be for elements.
def argument (start : RunProgram) : (fuel : Nat) → Expr → Act Binding
  | 0, _ => throw .endless
  | fuel + 1, e => do
    match e with
    | .name n =>
      match ← binding? n with
      | some (.value v) => return .value v
      | some (.table t) => return .table t
      | _ => if n = "NF" then return .value (← named n) else return .table (← tableOf n)
    | e => return .value (← eval start fuel e)

def arguments (start : RunProgram) : (fuel : Nat) → List Expr → Act (List Binding)
  | 0, _ => throw .endless
  | _ + 1, [] => return []
  | fuel + 1, e :: es => do
    let b ← argument start fuel e
    return b :: (← arguments start fuel es)

def callFunction (start : RunProgram) : (fuel : Nat) → String → List Expr → Act Value
  | 0, _, _ => throw .endless
  | fuel + 1, name, args => do
    match (← get).functions.lookup name with
    | none => throw (.failed ("function " ++ name ++ " never defined"))
    | some f =>
      let given ← arguments start fuel args
      let rest := List.replicate (f.parameters.length - given.length) Binding.unused
      let outer := (← get).locals
      modify fun s => { s with locals := f.parameters.zip (given ++ rest) }
      let result ←
        try
          exec start fuel f.body
          pure Value.missing
        catch
          | .return v => pure v
          | stop =>
            modify fun s => { s with locals := outer }
            throw stop
      modify fun s => { s with locals := outer }
      return result

def callBuiltin (start : RunProgram) : (fuel : Nat) → String → List Expr → Act Value
  | 0, _, _ => throw .endless
  | fuel + 1, name, args => do
    match name, args with
    | "length", [] => return .ofNat (← get).record.length
    | "length", [.name n] =>
      match ← binding? n with
      | some (.table t) => return .ofNat (← elements t).length
      | _ => return .ofNat (← textOf (← named n)).length
    | "length", e :: _ => return .ofNat (← evalText start fuel e).length
    | "split", [s, .name array] => splitInto start fuel s array (← separator)
    | "split", [s, .name array, .regex r] => splitInto start fuel s array (.regex r)
    | "split", [s, .name array, e] => do
      let text ← evalText start fuel e
      splitInto start fuel s array (.ofText false text)
    | "sub", [r, new] => replace start fuel false r new (.field (.number 0.0))
    | "sub", [r, new, target] => replace start fuel false r new target
    | "gsub", [r, new] => replace start fuel true r new (.field (.number 0.0))
    | "gsub", [r, new, target] => replace start fuel true r new target
    | "match", [s, r] => do
      let t := subject (← evalText start fuel s)
      let r ← evalRegex start fuel r
      let (place, length) : Nat × Int :=
        match r.find? t 0 with
        | some (i, stop) => (i + 1, stop.place - i)
        | none => (0, -1)
      setGlobal "RSTART" (.ofNat place)
      setGlobal "RLENGTH" (.number (Float.ofInt length))
      return .ofNat place
    | "rand", _ => return .number 0.5
    | "srand", _ => return .number 0.0
    | _, _ => plainBuiltin start name (← evalAll start fuel args)

-- The parts of a text as elements of an array.
def splitInto (start : RunProgram) : (fuel : Nat) → Expr → String → Separator → Act Value
  | 0, _, _, _ => throw .endless
  | fuel + 1, s, array, separator => do
    let parts := separator.split (← evalText start fuel s)
    setElements (← tableOf array) <|
      (parts.zipIdx.map fun (p, i) => (toString (i + 1), Value.ofInput p)).reverse
    return .ofNat parts.length

-- Put other texts in place of what an expression fits.
def replace (start : RunProgram) : (fuel : Nat) → (all : Bool) → (pattern new target : Expr) →
    Act Value
  | 0, _, _, _, _ => throw .endless
  | fuel + 1, all, pattern, new, target => do
    let r ← evalRegex start fuel pattern
    let new ← evalText start fuel new
    let old ← evalText start fuel target
    let (pieces, n) := substitute r new.toList all (subject old) (old.length + 2) 0 none
    if n > 0 && target.isTarget then
      let _ ← assign start fuel target (.text (String.join pieces))
    return .ofNat n

-- Read a line, and tell whether there was one.
def readLine (start : RunProgram) : (fuel : Nat) → LineSource → Expr → Option Expr → Act Value
  | 0, _, _, _ => throw .endless
  | fuel + 1, source, from?, target => do
    let name ← if source = .input then pure "" else evalText start fuel from?
    let known := ((← get).sources.lookup name).isSome
    let there ←
      match source with
      | .input => pure true
      | .file =>
        if known then pure true
        else
          match ← onShell (readNamed name) with
          | .ok text =>
            modify fun s => { s with sources := Machine.put name text.toList s.sources }
            pure true
          | .error _ => pure false
      | .command =>
        if !known then
          let (text, _) ← runCommand start { catches := true } name
          modify fun s => { s with sources := Machine.put name text.toList s.sources }
        pure true
    if !there then return .number (-1.0)
    else
      match ← if source = .input then readRecord else readSource name with
      | none => return .number 0.0
      | some line =>
        match target with
        | some e =>
          let _ ← assign start fuel e (.ofInput line)
        | none => setRecord line
        return .number 1.0

-- What needs no more than values.
def plainBuiltin (start : RunProgram) : String → List Value → Act Value
  | "substr", s :: i :: rest =>
    return .text (portion (← textOf s) i.toNumber (rest.head?.map (·.toNumber)))
  | "index", [s, t] => do
    let r := Regex.ofText (← textOf t)
    return .ofNat (((r.find? (subject (← textOf s)) 0).map (·.1 + 1)).getD 0)
  | "sprintf", format :: vs => return .text (← fillFormat "sprintf" (← textOf format) vs)
  | "atan2", [y, x] => return .number (Float.atan2 y.toNumber x.toNumber)
  | "tolower", [s] => return .text (lower (← textOf s))
  | "toupper", [s] => return .text (upper (← textOf s))
  | "system", [s] => do
    let (_, status) ← runCommand start {} (← textOf s)
    return .ofNat status
  | "close", s :: _ => return .number (Float.ofInt (← close start (← textOf s)))
  | "fflush", _ => do
    flush
    return .number 0.0
  | name, [x] =>
    match ofNumber? name x.toNumber with
    | some y => return .number y
    | none => throw (.failed ("wrong number of arguments in call to " ++ name))
  | name, _ => throw (.failed ("wrong number of arguments in call to " ++ name))

def exec (start : RunProgram) : (fuel : Nat) → Statement → Act Unit
  | 0, _ => throw .endless
  | fuel + 1, statement => do
    match statement with
    | .expr e => do
      let _ ← eval start fuel e
    | .print formatted es target => printOut start fuel formatted es target
    | .block statements => execAll start fuel statements
    | .branch test success failure => do
      if (← eval start fuel test).isTrue then exec start fuel success
      else
        match failure with
        | some s => exec start fuel s
        | none => return
    | .loop test body step => rounds start fuel test body step
    | .loopFirst body test => do
      if ← goesOn start fuel body then rounds start fuel test body (.block [])
    | .each name array body => do
      eachOf start fuel name ((← elements (← tableOf array)).names) body
    | .leave => throw .leave
    | .goOn => throw .goOn
    | .nextRecord => throw .nextRecord
    | .nextFile => throw .nextFile
    | .exit status => do
      match status with
      | some e =>
        let n := truncated (← eval start fuel e).toNumber
        modify fun s => { s with status := (n % 256).toNat }
      | none => pure ()
      throw .exit
    | .return value => do
      match value with
      | some e => throw (.return (← eval start fuel e))
      | none => throw (.return .missing)
    | .delete array subscripts => do
      let n ← tableOf array
      match subscripts with
      | some es =>
        let name ← subscript start fuel es
        setElements n (Machine.drop name (← elements n))
      | none => setElements n []

def execAll (start : RunProgram) : (fuel : Nat) → List Statement → Act Unit
  | 0, _ => throw .endless
  | _ + 1, [] => return
  | fuel + 1, s :: ss => do
    exec start fuel s
    execAll start fuel ss

-- The body of a loop, and whether another round may follow.
def goesOn (start : RunProgram) : (fuel : Nat) → Statement → Act Bool
  | 0, _ => throw .endless
  | fuel + 1, body => do
    try
      exec start fuel body
      return true
    catch
      | .goOn => return true
      | .leave => return false
      | stop => throw stop

def rounds (start : RunProgram) : (fuel : Nat) → (test : Expr) → (body step : Statement) →
    Act Unit
  | 0, _, _, _ => throw .endless
  | fuel + 1, test, body, step => do
    if (← eval start fuel test).isTrue then
      if ← goesOn start fuel body then
        exec start fuel step
        rounds start fuel test body step

-- A body for each name of an element.
def eachOf (start : RunProgram) : (fuel : Nat) → (name : String) → List String →
    (body : Statement) → Act Unit
  | 0, _, _, _ => throw .endless
  | _ + 1, _, [], _ => return
  | fuel + 1, name, n :: ns, body => do
    setNamed name (.text n)
    if ← goesOn start fuel body then eachOf start fuel name ns body

def printOut (start : RunProgram) : (fuel : Nat) → (formatted : Bool) → List Expr →
    Option (Sink × Expr) → Act Unit
  | 0, _, _, _ => throw .endless
  | fuel + 1, formatted, es, target => do
    let vs ← evalAll start fuel es
    let text ←
      if formatted then
        match vs with
        | [] => throw (.failed "no format")
        | format :: vs => fillFormat "printf" (← textOf format) vs
      else do
        let numbers ← globalText "OFMT"
        let texts ← if es.isEmpty then pure [(← get).record] else pure (vs.map (·.toText numbers))
        pure ((← globalText "OFS").intercalate texts ++ (← globalText "ORS"))
    match target with
    | none => write text
    | some (sink, e) =>
      let name ← evalText start fuel e
      match sink with
      | .file => writeFile false name text
      | .append => writeFile true name text
      | .command =>
        let s ← get
        match s.commands.lookup name with
        | some pieces => set { s with commands := Machine.put name (text :: pieces) s.commands }
        | none =>
          flush
          modify fun s => { s with commands := (name, [text]) :: s.commands }

end

-- Whether a rule is for the record. A number tells which one it is.
def fires (start : RunProgram) (fuel : Nat) (number : Nat) : Trigger → Act Bool
  | .start | .finish => return false
  | .always => return true
  | .when test => return (← eval start fuel test).isTrue
  | .between first last => do
    let inside := number ∈ (← get).started
    if inside || (← eval start fuel first).isTrue then
      let isLast := (← eval start fuel last).isTrue
      modify fun s =>
        let others := s.started.filter (· ≠ number)
        { s with started := if isLast then others else number :: others }
      return true
    else return false

-- The rules for a record.
def rulesFor (start : RunProgram) (fuel : Nat) : List (Rule × Nat) → Act Unit
  | [] => return
  | (rule, i) :: rules => do
    if ← fires start fuel i rule.trigger then
      match rule.body with
      | some body => exec start fuel body
      | none => printOut start fuel false [] none
    rulesFor start fuel rules

def records (start : RunProgram) (rules : List (Rule × Nat)) : (fuel : Nat) → Act Unit
  | 0 => throw .endless
  | fuel + 1 => do
    match ← readRecord with
    | none => return
    | some record =>
      setRecord record
      try rulesFor start fuel rules
      catch
        | .nextRecord => pure ()
        | .nextFile => modify fun s => { s with input := none }
        | stop => throw stop
      records start rules fuel

def bodiesOf (p : Program) (isWanted : Trigger → Bool) : List Statement :=
  p.rules.filterMap fun r => if isWanted r.trigger then r.body else none

-- Complain about what ends the program with no success.
def fail (message : String) : Act Unit := do
  let name := (← get).name
  onShell (toolComplain name message)
  modify fun s => { s with status := 2 }

-- Do something that may end the program early, and tell whether it did not end it at once.
def untilExit (act : Act Unit) : Act Bool := do
  try
    act
    return true
  catch
    | .exit => return true
    | .failed message =>
      let file := (← global "FILENAME").toText (← numberFormat)
      let counts ← ["FNR", "NR"].mapM fun name => do
        return " " ++ name ++ "=" ++ (← global name).toText (← numberFormat)
      fail ("run time error: " ++ message ++ "\n\tFILENAME=\"" ++ file ++ "\"" ++
        String.join counts)
      return false
    | .unopened message =>
      fail message
      return false
    | .halted => return false
    | .endless =>
      onShell (setFlow .endless)
      return false
    | _ => return true

-- Run the rules for the start, for the records and for the end.
def runProgram (start : RunProgram) (fuel : Nat) (p : Program) : Act Unit := do
  let first := bodiesOf p fun t => t matches .start
  let last := bodiesOf p fun t => t matches .finish
  let others := (p.rules.zipIdx).filter fun (r, _) => !(r.trigger matches .start | .finish)
  let begun ← untilExit do
    execAll start fuel first
    if !others.isEmpty || !last.isEmpty then records start others fuel
  if begun then
    let _ ← untilExit (execAll start fuel last)
  let _ ← untilExit (closeAll start fuel)

end Rulebook.Script.Scan
