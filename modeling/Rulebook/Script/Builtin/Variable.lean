import Rulebook.Script.Builtin.Text

namespace Rulebook.Script

-- Commands of the shell that are about variables, arguments and options.

-- A text in single quotes. Its own quotes stand in double quotes.
def singleQuoted (s : String) : String :=
  "'" ++ String.ofList (body s.toList false) ++ "'"
where
  -- whether double quotes are open
  body : List Char → Bool → List Char
    | '\'' :: r, false => "'\"'".toList ++ body r true
    | '\'' :: r, true => '\'' :: body r true
    | c :: r, true => "\"'".toList ++ c :: body r false
    | c :: r, false => c :: body r false
    | [], true => "\"'".toList
    | [], false => []

-- A variable with its value, as it could be given that value.
def shownVariable (front name : String) (value : Option String) : String :=
  front ++ name ++
    match value with
    | some v => "=" ++ singleQuoted v ++ "\n"
    | none => "\n"

def sortedVariables (s : Shell) : List (String × Variable) :=
  s.bindings.mergeSort fun a b => decide (a.1 ≤ b.1)

-- Change how variables are kept. Arguments may also give them values.
def declareAll (change : Variable → Variable) : List String → Work Nat
  | [] => return 0
  | a :: args => do
    let (name, value) := a.toList.span (· ≠ '=')
    let name := String.ofList name
    if !isName name then refuse (name ++ ": bad variable name")
    else
      if !value.isEmpty then assignValue name (String.ofList value.tail)
      if ← isOn then
        modify fun s => s.setVariable name (change ((s.known? name).getD {}))
        declareAll change args
      else return 2

-- Show or change all variables of a kind.
def declareBuiltin (word : String) (isSuch : Variable → Bool) (change : Variable → Variable)
    (args : List String) : Work Nat :=
  withLetters "p" "" args fun options names => do
    if options.isEmpty && !names.isEmpty then declareAll change names
    else
      let vs := (sortedVariables (← get)).filter fun v => isSuch v.2
      print (String.join (vs.map fun (name, v) => shownVariable (word ++ " ") name v.value))
      return 0

def exportBuiltin : List String → Work Nat :=
  declareBuiltin "export" (·.exported) fun v => { v with exported := true }

def readonlyBuiltin : List String → Work Nat :=
  declareBuiltin "readonly" (·.fixed) fun v => { v with fixed := true }

-- Keep in mind what a variable was before the function that is running.
def makeLocal (name : String) (s : Shell) : Shell :=
  match s.scopes with
  | [] => s
  | scope :: scopes =>
    let scope := if scope.any (·.1 = name) then scope else (name, s.known? name) :: scope
    let s := { s with scopes := scope :: scopes }
    if (s.known? name).isSome then s else s.setVariable name {}

def localAll : List String → Work Nat
  | [] => return 0
  | a :: args => do
    let (name, value) := a.toList.span (· ≠ '=')
    let name := String.ofList name
    if a = "-" then localAll args
    else if !isName name then refuse (name ++ ": bad variable name")
    else
      modify (makeLocal name)
      if !value.isEmpty then assignValue name (String.ofList value.tail)
      if ← isOn then localAll args else return 2

def localBuiltin (args : List String) : Work Nat := do
  if (← get).inFunction then localAll args else refuse "not in a function"

def unsetAll (functions : Bool) : List String → Work Nat
  | [] => return 0
  | name :: names => do
    let s ← get
    if functions then
      set { s with functions := Machine.drop name s.functions }
      unsetAll functions names
    else if !isName name then refuse (name ++ ": bad variable name")
    else if (s.known? name).any (·.fixed) then refuse (name ++ ": is read only")
    else
      set { s with bindings := Machine.drop name s.bindings }
      unsetAll functions names

def unsetBuiltin (args : List String) : Work Nat :=
  withLetters "vf" "" args fun options names =>
    unsetAll (options.getLast?.any (·.1 = 'f')) names

-- Options of the shell

def optionNames : List (String × Char) :=
  [("errexit", 'e'), ("noglob", 'f'), ("ignoreeof", 'I'), ("interactive", 'i'), ("monitor", 'm'),
   ("noexec", 'n'), ("stdin", 's'), ("xtrace", 'x'), ("verbose", 'v'), ("vi", 'V'),
   ("emacs", 'E'), ("noclobber", 'C'), ("allexport", 'a'), ("notify", 'b'), ("nounset", 'u'),
   ("privileged", 'p'), ("nolog", '\x01'), ("debug", '\x02')]

namespace Shell

def setOption (letter : Char) (on : Bool) (s : Shell) : Shell :=
  let others := s.options.filter (· ≠ letter)
  { s with options := if on then letter :: others else others }

-- New arguments, whose options have not been taken.
def setArguments (args : List String) (s : Shell) : Shell :=
  { s with arguments := args, optionIndex := 1, optionOffset := 0 }

end Shell

-- What an option is called where it is told what is on.
def shownOption (s : Shell) (on : Bool) (name : String) (letter : Char) : String :=
  if on then padRight 16 name ++ (if s.option letter then "on" else "off") ++ "\n"
  else "set " ++ (if s.option letter then "-o " else "+o ") ++ name ++ "\n"

def showOptions (on : Bool) : Work Unit := do
  let s ← get
  if on then print "Current option settings\n"
  print (String.join (optionNames.map fun (name, letter) => shownOption s on name letter))

-- Set an option that is known by its name.
def setNamed (name : String) (on : Bool) : Work Unit := do
  match optionNames.lookup name with
  | some letter => modify (·.setOption letter on)
  | none => failWith ("Illegal option " ++ (if on then "-o " else "+o ") ++ name)

-- Set options from the front of arguments. The result tells what is left, and whether that replaces
-- the arguments of the shell though it may be empty.
def setOptions : List String → Work (List String × Bool)
  | [] => return ([], false)
  | a :: args =>
    match a.toList with
    | ['-'] => do
      modify fun s => (s.setOption 'x' false).setOption 'v' false
      return (args, false)
    | ['-', '-'] => return (args, true)
    | sign :: letters => do
      if sign = '-' || sign = '+' then setLetters args (sign = '-') letters
      else return (a :: args, false)
    | [] => return (a :: args, false)
where
  setLetters (args : List String) (on : Bool) : List Char → Work (List String × Bool)
    | [] => setOptions args
    | 'o' :: letters =>
      match args with
      | name :: args => do
        setNamed name on
        if ← isOn then named args on letters else return ([], false)
      | [] => do
        showOptions on
        return ([], false)
    | c :: letters => do
      if optionNames.any (·.2 = c) then
        modify (·.setOption c on)
        setLetters args on letters
      else
        failWith ("Illegal option -" ++ String.singleton c)
        return ([], false)
  -- the letters after one that has taken a name
  named (args : List String) (on : Bool) : List Char → Work (List String × Bool)
    | [] => setOptions args
    | c :: letters => do
      if optionNames.any (·.2 = c) then modify (·.setOption c on)
      named args on letters

def setBuiltin (args : List String) : Work Nat := do
  if args.isEmpty then
    print (String.join ((sortedVariables (← get)).map fun (name, v) =>
      if v.value.isSome then shownVariable "" name v.value else ""))
    return 0
  else
    let (rest, replaces) ← setOptions args
    if ← isOn then
      if replaces || !rest.isEmpty then modify (·.setArguments rest)
      return 0
    else return 2

def shiftBuiltin (args : List String) : Work Nat :=
  withNumber (args.headD "1") fun n => do
    let s ← get
    if n > s.arguments.length then refuse "can't shift that many"
    else
      set (s.setArguments (s.arguments.drop n))
      return 0

-- Taking options

-- Give a variable a value, or none.
def giveOption (argument : Option String) : Work Unit := do
  match argument with
  | some a => assignValue "OPTARG" a
  | none => modify fun s => { s with bindings := Machine.drop "OPTARG" s.bindings }

-- What is known of a letter among the options: nothing, or whether it has a value.
def letterTakes? (c : Char) : List Char → Option Bool
  | d :: ':' :: r => if c = d then some true else letterTakes? c r
  | d :: r => if c = d then some false else letterTakes? c r
  | [] => none

-- The option in front of some characters of an argument. The result is the letter that is told,
-- how many more arguments have been taken, and what is left of this one.
def takeOption (known : String) (args : List String) (c : Char) (r : List Char) :
    Work (Char × Nat × Option (List Char)) := do
  let quiet := known.startsWith ":"
  match letterTakes? c (if quiet then known.toList.tail else known.toList) with
  | none =>
    if quiet then giveOption (some (String.singleton c))
    else
      complainLine ("Illegal option -" ++ String.singleton c)
      giveOption none
    return ('?', 0, some r)
  | some false =>
    giveOption (some "")
    return (c, 0, some r)
  | some true =>
    if !r.isEmpty then
      giveOption (some (String.ofList r))
      return (c, 0, none)
    else
      match args with
      | a :: _ =>
        giveOption (some a)
        return (c, 1, none)
      | [] =>
        if quiet then
          giveOption (some (String.singleton c))
          return (':', 0, some [])
        else
          complainLine ("No arg for -" ++ String.singleton c ++ " option")
          giveOption none
          return ('?', 0, some [])

-- The next option of some arguments.
def nextOption (known name : String) (args : List String) : Work Nat := do
  let s ← get
  let index := if s.optionIndex > args.length + 1 then 1 else max 1 s.optionIndex
  let offset := if s.optionIndex > args.length + 1 then 0 else s.optionOffset
  let finish (letter : Char) (index offset : Nat) (status : Nat) : Work Nat := do
    assignValue "OPTIND" (toString index)
    if ← isOn then assignValue name (String.singleton letter)
    modify fun s => { s with optionIndex := index, optionOffset := offset }
    if ← isOn then return status else return 2
  let take (c : Char) (r : List Char) (index offset : Nat) : Work Nat := do
    let (letter, more, rest) ← takeOption known (args.drop (index - 1)) c r
    match rest with
    | some (_ :: _) => finish letter index (offset + 1) 0
    | _ => finish letter (index + more) 0 0
  let before := (args.getD (index - 2) "").toList.drop offset
  match if index > 1 && offset > 0 then before else [] with
  | c :: r => take c r index offset
  | [] =>
    match args.drop (index - 1) with
    | [] => finish '?' index 0 1
    | a :: _ =>
      match a.toList with
      | ['-', '-'] => finish '?' (index + 1) 0 1
      | '-' :: c :: r => take c r (index + 1) 1
      | _ => finish '?' index 0 1

def getoptsBuiltin (args : List String) : Work Nat := do
  match args with
  | known :: name :: rest =>
    let s ← get
    nextOption known name (if rest.isEmpty then s.arguments else rest)
  | _ => refuse "Usage: getopts optstring var [arg...]"

-- Other names of commands

-- Names are kept in so many lists, in which they are shown.
def aliasPlace (name : String) : Nat :=
  match name.toList with
  | c :: r => (c :: r).foldl (fun n d => n + d.toNat) (c.toNat * 16) % 39
  | [] => 0

def shownAlias (name text : String) : String :=
  name ++ "=" ++ singleQuoted text ++ "\n"

def aliasOne (a : String) : Work Bool := do
  let s ← get
  let (name, text) := a.toList.span (· ≠ '=')
  let name := String.ofList name
  match text with
  | _ :: text =>
    if name.isEmpty then return true
    else
      set { s with aliases := Machine.put name (String.ofList text) s.aliases }
      return true
  | [] =>
    match s.aliases.lookup name with
    | some text =>
      print (shownAlias name text)
      return true
    | none =>
      complainLine ("alias: " ++ name ++ " not found")
      return false

def aliasBuiltin (args : List String) : Work Nat := do
  if args.isEmpty then
    let sorted := (← get).aliases.mergeSort fun a b => decide (aliasPlace a.1 ≤ aliasPlace b.1)
    print (String.join (sorted.map fun (name, text) => shownAlias name text))
    return 0
  else
    let found ← args.mapM aliasOne
    return if found.all id then 0 else 1

def unaliasBuiltin (args : List String) : Work Nat :=
  withLetters "a" "" args fun options names => do
    if !options.isEmpty then
      modify fun s => { s with aliases := [] }
      return 0
    else
      let found ← names.mapM fun name => do
        let s ← get
        if (s.aliases.lookup name).isSome then
          set { s with aliases := Machine.drop name s.aliases }
          return true
        else
          complainLine ("unalias: " ++ name ++ " not found")
          return false
      return if found.all id then 0 else 1

end Rulebook.Script
