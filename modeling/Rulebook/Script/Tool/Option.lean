import Rulebook.Script.Quoting
import Rulebook.Script.Shell

namespace Rulebook.Script

-- The options of programs: a letter, or a long name that may be cut short. Those that have no
-- letter are known by one that is no byte, which no argument holds.

inductive Takes
  | nothing
  | value
  -- a value only where it is joined to the option
  | joined
  -- no letter but digits, which are the value
  | digits
  deriving DecidableEq

structure OptionForm where
  letter : Char
  name : String := ""
  takes : Takes := .nothing

-- The options that were given, in order, and the other arguments.
structure Given where
  options : List (Char × String) := []
  operands : List String := []

namespace Given

def has (g : Given) (letter : Char) : Bool :=
  g.options.any (·.1 = letter)

-- The value that was given last.
def value? (g : Given) (letter : Char) : Option String :=
  (g.options.reverse.find? (·.1 = letter)).map (·.2)

-- The last one given of some letters.
def last? (g : Given) (letters : List Char) : Option Char :=
  (g.options.reverse.find? (·.1 ∈ letters)).map (·.1)

def option (letter : Char) (value : String) (g : Given) : Given :=
  { g with options := (letter, value) :: g.options }

def operand (s : String) (g : Given) : Given :=
  { g with operands := s :: g.operands }

end Given

namespace OptionForm

-- An option by its long name, in full or cut short.
def named (forms : List OptionForm) (name : String) : Except String OptionForm :=
  match forms.find? (fun f => f.name = name && name ≠ "") with
  | some f => .ok f
  | none =>
    match forms.filter fun f => f.name.startsWith name with
    | [] => .error ("unrecognized option '--" ++ name ++ "'")
    | f :: fs =>
      if fs.all fun f' => f'.letter = f.letter && f'.takes = f.takes then .ok f
      else
        .error ("option '--" ++ name ++ "' is ambiguous; possibilities:" ++
          String.join ((f :: fs).map fun f => " '--" ++ f.name ++ "'"))

-- The letters of one argument. The value of a letter is the rest of the argument or the next one.
-- Digits may follow others.
def letters (forms : List OptionForm) (digits : String) : List Char → List String → Given →
    Except String (List String × Given)
  | [], args, g => .ok (args, g)
  | c :: r, args, g =>
    match forms.find? fun f => if f.takes = .digits then c.isDigit else f.letter = c with
    | none => .error ("invalid option -- '" ++ String.singleton c ++ "'")
    | some f =>
      match f.takes with
      | .digits => letters forms (digits.push c) r args (g.option f.letter (digits.push c))
      | .nothing => letters forms "" r args (g.option c "")
      | .joined => .ok (args, g.option c (String.ofList r))
      | .value =>
        if !r.isEmpty then .ok (args, g.option c (String.ofList r))
        else
          match args with
          | a :: args => .ok (args, g.option c a)
          | [] => .error ("option requires an argument -- '" ++ String.singleton c ++ "'")

def long (forms : List OptionForm) (text : List Char) (args : List String) (g : Given) :
    Except String (List String × Given) := do
  let (name, value) := text.span (· ≠ '=')
  let f ← named forms (String.ofList name)
  match f.takes, value with
  | .nothing, _ :: _ => throw ("option '--" ++ f.name ++ "' doesn't allow an argument")
  | .nothing, [] | .joined, [] | .digits, [] => return (args, g.option f.letter "")
  | _, _ :: value => return (args, g.option f.letter (String.ofList value))
  | .value, [] =>
    match args with
    | a :: args => return (args, g.option f.letter a)
    | [] => throw ("option '--" ++ f.name ++ "' requires an argument")

-- Sort arguments into options and others. Where options end with the first other argument, the
-- rest are others too.
def sort (forms : List OptionForm) (mixed : Bool) : (fuel : Nat) → List String → Given →
    Except String Given
  | 0, _, g => .ok g
  | _ + 1, [], g => .ok g
  | fuel + 1, a :: args, g =>
    match a.toList with
    | ['-', '-'] => .ok { g with operands := args.reverse ++ g.operands }
    | '-' :: '-' :: text => do
      let (args, g) ← long forms text args g
      sort forms mixed fuel args g
    | '-' :: c :: text => do
      let (args, g) ← letters forms "" (c :: text) args g
      sort forms mixed fuel args g
    | _ =>
      if mixed then sort forms mixed fuel args (g.operand a)
      else .ok { g with operands := args.reverse ++ a :: g.operands }

def parse (forms : List OptionForm) (mixed : Bool) (args : List String) : Except String Given := do
  let g ← sort forms mixed (args.length + 1) args {}
  return ⟨g.options.reverse, g.operands.reverse⟩

-- Options that are letters only.
def ofLetters (s : String) : List OptionForm :=
  s.toList.map fun c => { letter := c }

end OptionForm

-- A program tells its name in complaints.
def toolComplain (tool text : String) : Work Unit :=
  complainLine (tool ++ ": " ++ text)

def usageHint (tool : String) : Work Unit :=
  complainLine ("Try '" ++ tool ++ " --help' for more information.")

-- A complaint about how a program was called.
def misuse (tool text : String) (status : Nat) : Work Nat := do
  toolComplain tool text
  usageHint tool
  return status

-- What a program says at its end when its output was refused, and its status then.
def refusedOutput (tool : String) (e : Refusal) : String × Nat :=
  let status :=
    if tool = "sed" then 4
    else if tool = "expr" then 3
    else if tool ∈ ["awk", "cmp", "diff", "grep", "ls", "mawk", "printenv", "sort"] then 2
    else if tool ∈ ["env", "nice"] then 125
    else 1
  let text :=
    if tool = "sed" then
      (if e = .badStream then "couldn't close stdout: " else "couldn't flush stdout: ") ++ e.text
    else if tool ∈ ["awk", "mawk"] then
      "close failed on file \"/dev/stdout\" (" ++ e.text ++ ")"
    else if tool ∈ ["cmp", "diff", "yes"] then "standard output: " ++ e.text
    else "write error: " ++ e.text
  (text, status)

-- The end of a program. Some programs need their output even if they have written nothing.
def endTool (tool : String) (status : Nat) : Work Unit := do
  let s ← get
  let lacksOutput := tool ∈ ["awk", "mawk", "sed"] && !(s.opened 1).isOk
  match if lacksOutput then some .badStream else s.refusal with
  | none => setStatus status
  | some e =>
    let (text, status) := refusedOutput tool e
    if e ≠ .brokenPipe then toolComplain tool text
    set { ← get with status := status, refusal := none }

-- Run a program with its options.
def withOptions (tool : String) (forms : List OptionForm) (status : Nat) (args : List String)
    (act : Given → Work Nat) : Work Nat := do
  match OptionForm.parse forms true args with
  | .error text => misuse tool text status
  | .ok g => act g

-- The contents of files one after the other, or of the input if there are none. Those that cannot
-- be read are complained about.
def readEach (tool : String) (before : String) (names : List String) :
    Work (List (String × Option String)) :=
  (if names.isEmpty then ["-"] else names).mapM fun name => do
    match ← readNamed name with
    | .ok text => return (name, some text)
    | .error e =>
      toolComplain tool (before ++ ShellWord.inFront name ++ ": " ++ e.text)
      return (name, none)

-- The contents of files as one text, and the status.
def readTogether (tool before : String) (names : List String) (status : Nat) :
    Work (String × Nat) := do
  let texts ← readEach tool before names
  return (String.join (texts.filterMap (·.2)), if texts.any (·.2.isNone) then status else 0)

-- Which of the known words an option is given, maybe shortened, or what is wrong with it.
def choice? (option : String) (known : List String) (word : String) : Except String String :=
  match known.filter (·.startsWith word) with
  | [k] => .ok k
  | found =>
    if word ∈ known then .ok word
    else
      let fault := if found.isEmpty then "invalid" else "ambiguous"
      .error <| "\n".intercalate <|
        (fault ++ " argument " ++ quoted word ++ " for '--" ++ option ++ "'") ::
          "Valid arguments are:" :: known.map fun k => "  - " ++ quoted k

-- What is wrong with a count.
inductive CountFault
  | invalid
  | suffix
  | tooLarge
  deriving DecidableEq

-- A complaint about the count of an option.
def CountFault.text (option value : String) : CountFault → String
  | invalid => "invalid " ++ option ++ " argument " ++ quoted value
  | suffix => "invalid suffix in " ++ option ++ " argument " ++ quoted value
  | tooLarge => option ++ " argument " ++ quoted value ++ " too large"

-- The factor of a unit, of which some letters are known, and how long the unit is. A zero among the
-- letters stands for those that tell whether thousands are meant.
def unitFactor? (known : String) (cs : List Char) : Option (Nat × Nat) :=
  match cs with
  | [] => some (1, 0)
  | c :: r =>
    if !known.contains c then none
    else
      let (base, length) :=
        match known.contains '0', r with
        | true, 'i' :: 'B' :: _ => (1024, 3)
        | true, 'B' :: _ | true, 'D' :: _ => (1000, 2)
        | _, _ => (1024, 1)
      match c with
      | 'b' => some (512, 1)
      | 'B' => some (1024, 1)
      | 'c' => some (1, 1)
      | 'w' => some (2, 1)
      | _ =>
        ([('k', 1), ('K', 1), ('m', 2), ('M', 2), ('g', 3), ('G', 3), ('t', 4), ('T', 4), ('P', 5),
          ('E', 6), ('Z', 7), ('Y', 8), ('R', 9), ('Q', 10)].lookup c).map fun power =>
            (Nat.pow base power, length)

-- A count with a unit. With base zero the numeral tells its base.
def scaled? (base : Nat) (known : String) (s : String) : Except CountFault Nat :=
  let cs := s.toList
  if (cs.dropWhile isSpace).head? = some '-' then .error .invalid
  else
    let (n, rest) :=
      match leadingInteger? base cs with
      | some (n, rest) => (n.toNat, rest)
      | none => (1, cs)
    if rest.length = cs.length && !(cs.head?.any fun c => known.contains c) then .error .invalid
    else
      match unitFactor? known rest with
      | none => .error .suffix
      | some (factor, length) =>
        if length < rest.length then .error .suffix
        else if n * factor > 18446744073709551615 then .error .tooLarge
        else .ok (n * factor)

-- A count, which may have a letter for its size.
def sized? (s : String) : Option Nat :=
  let units : List (String × Nat) :=
    [("", 1), ("b", 512), ("kB", 1000), ("K", 1024), ("k", 1024), ("KiB", 1024), ("MB", 1000000),
     ("M", 1048576), ("m", 1048576), ("MiB", 1048576), ("GB", 1000000000), ("G", 1073741824),
     ("GiB", 1073741824)]
  match s.toList.span Char.isDigit with
  | ([], _) => none
  | (ds, unit) => (units.lookup (String.ofList unit)).map (ofDigits 10 ds * ·)

end Rulebook.Script
