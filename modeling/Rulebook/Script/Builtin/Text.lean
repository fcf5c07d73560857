import Rulebook.Script.Expansion
import Rulebook.Script.Tool.Value

namespace Rulebook.Script

-- Commands of the shell that read and write texts.

-- The options in front of the arguments of a command: letters, some of which have values.
def takeOptions (known withValue : String) : (fuel : Nat) → List String →
    Work (List (Char × String) × List String)
  | 0, args => return ([], args)
  | _ + 1, [] => return ([], [])
  | fuel + 1, a :: args =>
    match a.toList with
    | ['-', '-'] => return ([], args)
    | '-' :: c :: r => letters fuel args (c :: r)
    | _ => return ([], a :: args)
where
  letters (fuel : Nat) (args : List String) : List Char → Work (List (Char × String) × List String)
    | [] => takeOptions known withValue fuel args
    | c :: r => do
      if known.contains c then
        let (options, rest) ← letters fuel args r
        return ((c, "") :: options, rest)
      else if withValue.contains c then
        if !r.isEmpty then
          let (options, rest) ← takeOptions known withValue fuel args
          return ((c, String.ofList r) :: options, rest)
        else
          match args with
          | a :: args =>
            let (options, rest) ← takeOptions known withValue fuel args
            return ((c, a) :: options, rest)
          | [] =>
            failWith ("No arg for -" ++ String.singleton c ++ " option")
            return ([], [])
      else
        failWith ("Illegal option -" ++ String.singleton c)
        return ([], [])

-- Do something with the options and arguments of a command, unless something is wrong with them.
def withLetters (known withValue : String) (args : List String)
    (act : List (Char × String) → List String → Work Nat) : Work Nat := do
  let (options, rest) ← takeOptions known withValue (args.length + 1) args
  if ← isOn then act options rest else return 2

def refuse (text : String) : Work Nat := do
  failWith text
  return 2

-- Do something with a number that is not negative.
def withNumber (s : String) (act : Nat → Work Nat) : Work Nat := do
  match integer? 10 s with
  | some n =>
    if 0 ≤ n && n < 0x80000000 then act n.toNat else refuse ("Illegal number: " ++ s)
  | none => refuse ("Illegal number: " ++ s)

def echoBuiltin (args : List String) : Work Nat := do
  let (ends, args) := if args.head? = some "-n" then (false, args.tail) else (true, args)
  let (text, stopped) := Escapes.text.replaced (" ".intercalate args)
  print (if ends && !stopped then text ++ "\n" else text)
  return 0

def printfBuiltin (args : List String) : Work Nat :=
  withLetters "" "" args fun _ args => do
    match args with
    | [] => refuse "usage: printf format [arg ...]"
    | format :: args =>
      let f := Filling.ofFormat false format args
      f.complaints.reverse.forM complain
      print f.text
      if f.failed then
        giveUp
        return 2
      else return if f.complaints.isEmpty then 0 else 1

def testBuiltin (name : String) (args : List String) : Work Nat := do
  if name = "[" && args.getLast? ≠ some "]" then refuse "missing ]"
  else
    match Condition.check (fileFacts (← get)) (if name = "[" then args.dropLast else args) with
    | .ok b => return if b then 0 else 1
    | .error text => refuse text

-- A line that is read for variables, a field for each and the rest for the last one.
namespace Line

-- A character, and whether it may separate.
abbrev Source := List (Char × Bool)

-- What a backslash stands before loses its meaning, and a line end after one is not there. Zeros
-- are left out. The result tells whether the line has an end.
def ofText (raw : Bool) : List Char → Source × Bool
  | [] => ([], false)
  | '\n' :: _ => ([], true)
  | '\\' :: c :: r =>
    if raw then
      let (l, ended) := ofText raw (c :: r)
      (('\\', true) :: l, ended)
    else
      let (l, ended) := ofText raw r
      (if c = '\n' then l else (c, false) :: l, ended)
  | c :: r =>
    let (l, ended) := ofText raw r
    (if c = '\x00' || (c = '\\' && !raw) then l else (c, true) :: l, ended)

-- How many characters a line has.
def size (raw : Bool) : List Char → Nat
  | [] => 0
  | '\n' :: _ => 1
  | '\\' :: c :: r => if raw then size raw (c :: r) + 1 else size raw r + 2
  | _ :: r => size raw r + 1

-- The last field goes on to the end, without the separator after it if that is the last one. The
-- characters come last first, and those that are kept so far without it.
def lastField (separators : List Char) : (spaced : Bool) → (field : List Char) →
    (kept : Option (List Char)) → Source → List Char
  | _, field, kept, [] => (kept.getD field).reverse
  | spaced, field, kept, (c, may) :: r =>
    if !may then lastField separators spaced (c :: field) kept r
    else
      let separates := c ∈ separators
      if separates && isSpace c then
        lastField separators spaced (c :: field) (some (kept.getD field)) r
      else
        lastField separators false (c :: field) (if separates && spaced then kept else none) r

-- The first fields of a line, at most so many of them.
def fields (separators : List Char) : (count : Nat) → (spaced : Bool) → (field : List Char) →
    Source → List String
  | _, _, field, [] => if field.isEmpty then [] else [String.ofList field.reverse]
  | count, spaced, field, (c, may) :: r =>
    let separates := may && c ∈ separators
    if separates && isSpace c && (spaced || field.isEmpty) then
      fields separators count spaced field r
    else if separates && spaced then fields separators count false [] r
    else if separates then
      if count ≤ 1 then
        [String.ofList (lastField separators (isSpace c) (c :: field) (some field) r)]
      else
        String.ofList field.reverse :: fields separators (count - 1) (isSpace c) [] r
    else fields separators count false (c :: field) r

end Line

-- Each variable gets a field, or nothing.
def assignFields : List String → List String → Work Unit
  | [], _ => return
  | name :: names, fields => do
    assignValue name (fields.headD "")
    if ← isOn then assignFields names fields.tail

def readBuiltin (args : List String) : Work Nat :=
  withLetters "r" "p" args fun options names => do
    if names.isEmpty then refuse "arg count"
    else
      let raw := options.any (·.1 = 'r')
      match ← readPart 0 (Line.size raw) with
      | .error _ =>
        assignFields names []
        if ← isOn then return 1 else return 2
      | .ok cs =>
        let (line, ended) := Line.ofText raw cs
        let s ← get
        assignFields names (Line.fields s.separators names.length false [] line)
        if ← isOn then return if ended then 0 else 1 else return 2

end Rulebook.Script
