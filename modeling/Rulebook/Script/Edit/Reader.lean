import Rulebook.Script.Edit.Program

namespace Rulebook.Script.Edit

-- Reading scripts. They come in parts, and commands may go on from one part to the next.

-- Where a part of a script comes from.
inductive Origin
  | expression (number : Nat)
  | file (name : String)
  deriving DecidableEq

-- A place in a part of a script, as complaints tell it.
def Origin.place (o : Origin) (taken line : Nat) : String :=
  match o with
  | .expression n => "-e expression #" ++ toString n ++ ", char " ++ toString taken ++ ": "
  | .file name => "file " ++ name ++ " line " ++ toString line ++ ": "

structure Source where
  rest : List Char := []
  origin : Origin := .expression 0
  taken : Nat := 0
  line : Nat := 1
  extended : Bool := false
  commands : Commands := #[]
  -- the blocks that are not closed, the last one first, and where they start
  blocks : List (Nat × String) := []
  -- whether the text of the last command goes on with the next part
  unended : Bool := false

abbrev Reader := StateT Source (Except String)

def fail {α : Type} (message : String) : Reader α := do
  let s ← get
  throw (s.origin.place s.taken s.line ++ message)

def peek : Reader (Option Char) :=
  return (← get).rest.head?

def next : Reader (Option Char) := do
  let s ← get
  match s.rest with
  | [] => return none
  | c :: r =>
    set { s with rest := r, taken := s.taken + 1, line := if c = '\n' then s.line + 1 else s.line }
    return some c

-- Put a character back.
def back : Option Char → Reader Unit
  | none => return
  | some c => modify fun s => { s with
    rest := c :: s.rest, taken := s.taken - 1, line := if c = '\n' then s.line - 1 else s.line }

def drop (n : Nat) : Reader Unit :=
  modify fun s => { s with
    rest := s.rest.drop n, taken := s.taken + n, line := s.line + (s.rest.take n).count '\n' }

def takeSpan (p : Char → Bool) : Reader (List Char) := do
  let (cs, _) := (← get).rest.span p
  drop cs.length
  return cs

def isBlank (c : Char) : Bool :=
  c = ' ' || c = '\t'

def nextNonblank : Reader (Option Char) := do
  let _ ← takeSpan isBlank
  next

-- The digits of a number of which the first one has been taken.
def number (first : Char) : Reader Nat := do
  return ofDigits 10 (first :: (← takeSpan Char.isDigit))

-- A number, if there is one.
def number? : Reader (Option Nat) := do
  let c ← nextNonblank
  match c.filter Char.isDigit with
  | some d => return some (← number d)
  | none =>
    back c
    return none

-- Where a delimited text is, when it is an expression with sets in it.
inductive Place
  | outside
  | set
  | named (mark : Char)

-- A text up to a character that ends it, with how many characters were taken, and whether it ended.
-- A backslash before that character is left out.
def delimited (stop : Char) (isExpression : Bool) : (fuel : Nat) → Place → List Char →
    List Char × Nat × Bool
  | 0, _, _ => ([], 0, false)
  | _ + 1, _, [] => ([], 0, false)
  | fuel + 1, place, c :: r =>
    let more (cs : List Char) (n : Nat) (place : Place) (r : List Char) : List Char × Nat × Bool :=
      let (t, k, ended) := delimited stop isExpression fuel place r
      (cs ++ t, n + k, ended)
    if c = '\n' then ([], 0, false)
    else
      match place with
      | .outside =>
        if c = stop then ([], 1, true)
        else if c = '\\' then
          match r with
          | [] => ([], 1, false)
          | d :: r =>
            if d = '\n' then more [d] 2 .outside r
            else if d = stop && (isExpression || d ≠ '&') then more [d] 2 .outside r
            else more [c, d] 2 .outside r
        else if isExpression && c = '[' then
          match r with
          | '^' :: ']' :: r => more [c, '^', ']'] 3 .set r
          | '^' :: r => more [c, '^'] 2 .set r
          | ']' :: r => more [c, ']'] 2 .set r
          | r => more [c] 1 .set r
        else more [c] 1 .outside r
      | .set =>
        match c, r with
        | ']', r => more [c] 1 .outside r
        | '[', d :: r' =>
          if d = ':' || d = '.' || d = '=' then more [c, d] 2 (.named d) r' else more [c] 1 .set r
        | _, r => more [c] 1 .set r
      | .named mark =>
        match r with
        | ']' :: r => if c = mark then more [c, ']'] 2 .set r else more [c] 1 place (']' :: r)
        | r => more [c] 1 place r

def takeDelimited (stop : Option Char) (isExpression : Bool) (complaint : String) :
    Reader (List Char) := do
  match stop with
  | none => fail complaint
  | some stop =>
    let s ← get
    let (cs, n, ended) := delimited stop isExpression (s.rest.length + 1) .outside s.rest
    drop n
    if ended then return cs else fail complaint

-- A character after a backslash that stands for another one, and what follows. A caret turns
-- letters into controls.
def escaped? (cs : List Char) : Option (Char × List Char) :=
  match cs with
  | 'c' :: '\\' :: '\\' :: r => some ('\x1c', r)
  | 'c' :: c :: r => some (Char.ofNat (c.toUpper.toNat ^^^ 64), r)
  | c :: r =>
    match Regex.controlChar? c with
    | some k => some (k, r)
    | none => Regex.numbered? cs
  | [] => none

-- An expression in which the characters with numbers and the controls stand for themselves.
def plainExpression : (fuel : Nat) → List Char → List Char
  | 0, cs => cs
  | _ + 1, [] => []
  | fuel + 1, '\\' :: r =>
    match escaped? r, r with
    | some (k, rest), _ => k :: plainExpression fuel rest
    | none, c :: r => '\\' :: c :: plainExpression fuel r
    | none, [] => ['\\']
  | fuel + 1, c :: r => c :: plainExpression fuel r

-- Whether a control is made of something that has a backslash itself.
def isRecursive : List Char → Bool
  | '\\' :: 'c' :: '\\' :: '\\' :: r => isRecursive r
  | '\\' :: 'c' :: '\\' :: _ :: _ => true
  | '\\' :: _ :: r => isRecursive r
  | _ :: r => isRecursive r
  | [] => false

def recursiveEscape : String := "recursive escaping after \\c not allowed"

-- An expression from its text. References to more groups than it has are wrong.
def search (cs : List Char) (ignoresCase manyLines : Bool) (groups : Nat) : Reader Search := do
  if cs.isEmpty then
    if ignoresCase || manyLines then fail "cannot specify modifiers on empty regexp"
    return ⟨none, false, false⟩
  if isRecursive cs then fail recursiveEscape
  let dialect : Regex.Dialect :=
    { extended := (← get).extended, strict := true, checked := true }
  match Regex.parse dialect (String.ofList (plainExpression cs.length cs)) with
  | .ok r =>
    if r.groupCount < groups then
      fail ("invalid reference \\" ++ toString groups ++ " on `s' command's RHS")
    return ⟨some r, ignoresCase, manyLines⟩
  | .error text => if text = Regex.bareClass then throw text else fail text

-- The letters after the expression of an address.
def addressLetters : (fuel : Nat) → (ignoresCase manyLines : Bool) → Reader (Bool × Bool)
  | 0, i, m => return (i, m)
  | fuel + 1, i, m => do
    match ← nextNonblank with
    | some 'I' => addressLetters fuel true m
    | some 'M' => addressLetters fuel i true
    | c =>
      back c
      return (i, m)

-- An address that starts with a character, if one does.
def address? (first : Option Char) : Reader (Option RangeEnd) := do
  match first with
  | some '$' => return some (.address .last)
  | some '/' => return some (.address (.search (← expression first)))
  | some '\\' => return some (.address (.search (← expression (← next))))
  | some '+' => return some (.after ((← number?).getD 0))
  | some '~' => return some (.multiple ((← number?).getD 0))
  | some c =>
    if !c.isDigit then return none
    let n ← number c
    let sign ← nextNonblank
    if sign = some '~' then
      let distance := (← number?).getD 0
      return some (.address (if distance = 0 then .line n else .step n distance))
    else
      back sign
      return some (.address (.line n))
  | none => return none
where
  expression (stop : Option Char) : Reader Search := do
    let cs ← takeDelimited stop true "unterminated address regex"
    let (i, m) ← addressLetters (← get).rest.length false false
    search cs i m 0

-- The lines that a command is for, and the character behind that.
def selector (first : Option Char) : Reader (Selector × Option Char) := do
  match ← address? first with
  | none => return (.all, first)
  | some (.address a) =>
    let c ← nextNonblank
    let (last?, c) ←
      if c = some ',' then
        match ← address? (← nextNonblank) with
        | some last => pure (some last, ← nextNonblank)
        | none => fail "unexpected `,'"
      else pure (none, c)
    match last? with
    | none =>
      if a = .line 0 then fail "invalid usage of line address 0"
      return (.one a, c)
    | some last =>
      if a = .line 0 then
        if !(last matches .address (.search _)) then fail "invalid usage of line address 0"
        return (.range none last, c)
      else return (.range (some a) last, c)
  | some _ => fail "invalid usage of +N or ~N as first address"

-- The parts of a replacement.
def replacement : (fuel : Nat) → List Char → List Part
  | 0, _ => []
  | _ + 1, [] => []
  | fuel + 1, '&' :: r => .group 0 :: replacement fuel r
  | _ + 1, ['\\', 'c'] => [.text '\\']
  | fuel + 1, '\\' :: c :: r =>
    if c.isDigit then .group (digitValue c) :: replacement fuel r
    else
      match c with
      | 'U' => .casing .upper :: replacement fuel r
      | 'L' => .casing .lower :: replacement fuel r
      | 'E' => .casing .same :: replacement fuel r
      | 'u' => .nextCasing .upper :: replacement fuel r
      | 'l' => .nextCasing .lower :: replacement fuel r
      | c =>
        match escaped? (c :: r) with
        | some (k, rest) => .text k :: replacement fuel rest
        | none => .text c :: replacement fuel r
  | fuel + 1, c :: r => .text c :: replacement fuel r

-- A name up to the end of the line.
def fileName : Reader String := do
  let c ← nextNonblank
  back c
  let name ← takeSpan (· ≠ '\n')
  let _ ← next
  if name.isEmpty then
    back (if c = some '\n' then c else none)
    fail "missing filename in r/R/w/W commands"
  return String.ofList name

-- The letters after a substitution, with those for its expression.
def substitutionLetters : (fuel : Nat) → (ignoresCase manyLines : Bool) → Substitution →
    Reader (Bool × Bool × Substitution)
  | 0, i, m, s => return (i, m, s)
  | fuel + 1, i, m, s => do
    let c ← nextNonblank
    match c with
    | some 'i' | some 'I' => substitutionLetters fuel true m s
    | some 'm' | some 'M' => substitutionLetters fuel i true s
    | some 'e' => substitutionLetters fuel i m { s with runs := true }
    | some 'p' =>
      if s.prints then fail "multiple `p' options to `s' command"
      substitutionLetters fuel i m { s with prints := true }
    | some 'g' =>
      if s.all then fail "multiple `g' options to `s' command"
      substitutionLetters fuel i m { s with all := true }
    | some 'w' => return (i, m, { s with file := some (← fileName) })
    | some '\x7d' | some '#' =>
      back c
      return (i, m, s)
    | some '\n' | some ';' | none => return (i, m, s)
    | some d =>
      if !d.isDigit then fail "unknown option to `s'"
      if s.count.isSome then fail "multiple number options to `s' command"
      let n ← number d
      if n = 0 then fail "number option to `s' command may not be zero"
      substitutionLetters fuel i m { s with count := some n }

-- A name up to a blank or the end of a command.
def labelName : Reader String := do
  let c ← nextNonblank
  back c
  return String.ofList (← takeSpan fun c => c ≠ ';' && !isSpace c && c ≠ '\x7d')

-- What must follow a command.
def commandEnd : Reader Unit := do
  let c ← nextNonblank
  match c with
  | some '\x7d' | some '#' => back c
  | none | some ';' | some '\n' => return
  | some _ => fail "extra characters after command"

-- A text up to the end of the line, with its length, and whether it goes on in the next part of the
-- script. A backslash takes the meaning of what follows.
def textLines : (fuel : Nat) → List Char → List Char × Nat × Bool
  | 0, _ => (['\n'], 0, false)
  | _ + 1, [] => (['\n'], 0, false)
  | _ + 1, '\n' :: _ => (['\n'], 1, false)
  | _ + 1, ['\\'] => (['\n'], 1, true)
  | fuel + 1, '\\' :: c :: r =>
    let (k, rest) := (escaped? (c :: r)).getD (c, r)
    let (t, n, goesOn) := textLines fuel rest
    (k :: t, n + 2 + (r.length - rest.length), goesOn)
  | fuel + 1, c :: r =>
    let (t, n, goesOn) := textLines fuel r
    (c :: t, n + 1, goesOn)

def takeText : Reader String := do
  let s ← get
  let (text, n, goesOn) := textLines (s.rest.length + 1) s.rest
  drop n
  modify fun s => { s with unended := goesOn }
  return String.ofList text

-- The text of a command that adds lines. It starts behind a first backslash, and behind the end of
-- the line if nothing else follows that.
def addedText : Reader String := do
  let c ← nextNonblank
  match c with
  | none => fail "expected \\ after `a', `c' or `i'"
  | some '\\' =>
    let blanks ← takeSpan isBlank
    match ← peek with
    | none =>
      modify fun s => { s with unended := true }
      return ""
    | some '\n' => drop 1
    | some _ => modify fun s => { s with
      rest := blanks ++ s.rest, taken := s.taken - blanks.length }
    takeText
  | _ =>
    back c
    takeText

-- The characters of a list for a translation.
def listed : (fuel : Nat) → List Char → List Char
  | 0, cs => cs
  | _ + 1, [] => []
  | fuel + 1, '\\' :: c :: r =>
    let (k, rest) := (escaped? (c :: r)).getD (c, r)
    k :: listed fuel rest
  | fuel + 1, c :: r => c :: listed fuel r

-- Whether a version is later than that of the commands that are known.
def isLater (version : String) : Bool :=
  let numbers := (version.toList.splitOn '.').map fun n => natural? (String.ofList n)
  version ≠ "" && match numbers with
  | some major :: minor :: _ => major > 4 || (major = 4 && minor.any (· > 9))
  | [some major] => major > 4
  | _ => true

-- The action of a command, which a letter tells.
def action (sel : Selector) (letter : Char) : Reader Action := do
  match letter with
  | ':' =>
    if sel ≠ .all then fail ": doesn't want any addresses"
    let name ← labelName
    if name = "" then fail "\":\" lacks a label"
    return .label name
  | 'b' => ended (.branch (← labelName))
  | 't' => ended (.branchIfReplaced (← labelName))
  | 'T' => ended (.branchUnlessReplaced (← labelName))
  | 'q' | 'Q' =>
    if sel.isRange then fail "command only uses one address"
    let status := ((← number?).getD 0) % 256
    ended (.leave (if letter = 'q' then .normally else .quietly) status)
  | 'l' => ended (.display (← number?))
  | 'L' =>
    let _ ← number?
    ended (.simple 'L')
  | 's' => substitution
  | 'y' =>
    let stop ← next
    let a ← takeDelimited stop false "unterminated `y' command"
    let b ← takeDelimited stop false "unterminated `y' command"
    let a := listed (a.length + 1) a
    let b := listed (b.length + 1) b
    if a.length ≠ b.length then fail "strings for `y' command are different lengths"
    ended (.translate (a.zip b).reverse)
  | 'a' => return .append (← addedText)
  | 'i' => return .insert (← addedText)
  | 'c' => return .change (← addedText)
  | 'e' =>
    let c ← nextNonblank
    match c with
    | none | some '\n' => return .run ""
    | _ =>
      back c
      return .run (← addedText)
  | 'r' => return .readFile (← fileName)
  | 'R' => return .readLine (← fileName)
  | 'w' => return .writeFile (← fileName)
  | 'W' => return .writeLine (← fileName)
  | c =>
    if c ∈ ['d', 'D', 'p', 'P', 'n', 'N', 'g', 'G', 'h', 'H', 'x', '=', 'z', 'F'] then
      ended (.simple c)
    else fail ("unknown command: `" ++ String.singleton c ++ "'")
where
  ended (a : Action) : Reader Action := do
    commandEnd
    return a
  substitution : Reader Action := do
    let stop ← next
    let pattern ← takeDelimited stop true "unterminated `s' command"
    let text ← takeDelimited stop false "unterminated `s' command"
    if isRecursive text then fail recursiveEscape
    let (i, m, s) ← substitutionLetters ((← get).rest.length + 1) false false
      { search := ⟨none, false, false⟩, replacement := replacement (text.length + 1) text }
    return .substitute { s with search := ← search pattern i m s.groups }

-- Read a command that starts with a character.
def command (first : Char) : Reader Unit := do
  let (sel, c) ← selector (some first)
  let negated := c = some '!'
  let c ← if negated then nextNonblank else pure c
  if negated && c = some '!' then fail "multiple `!'s"
  let add (a : Action) : Reader Unit :=
    modify fun s => { s with commands := s.commands.push ⟨sel, negated, a⟩ }
  match c with
  | none => fail "missing command"
  | some '#' =>
    if sel ≠ .all then fail "comments don't accept any addresses"
    let _ ← takeSpan (· ≠ '\n')
  | some 'v' => if isLater (← labelName) then fail "expected newer version of sed"
  | some '\x7b' =>
    modify fun s => { s with
      blocks := (s.commands.size, s.origin.place 0 s.line) :: s.blocks }
    add (.block 0)
  | some '\x7d' =>
    match (← get).blocks with
    | [] => fail "unexpected `\x7d'"
    | (n, _) :: blocks =>
      if sel ≠ .all then fail "`\x7d' doesn't want any addresses"
      commandEnd
      modify fun s => { s with
        blocks := blocks
        commands := s.commands.modify n fun c => { c with action := .block s.commands.size } }
  | some letter => add (← action sel letter)

-- Read commands up to the end of a part.
def readCommands : (fuel : Nat) → Reader Unit
  | 0 => return
  | fuel + 1 => do
    let _ ← takeSpan fun c => isSpace c || c = ';'
    match ← next with
    | none => return
    | some c =>
      command c
      readCommands fuel

-- Read a part of a script.
def readPart (origin : Origin) (text : String) : Reader Unit := do
  modify fun s => { s with rest := text.toList, origin := origin, taken := 0, line := 1 }
  if (← get).unended then
    let more ← takeText
    modify fun s => { s with
      commands := s.commands.modify (s.commands.size - 1) fun c =>
        { c with action := c.action.extend more } }
  readCommands (text.length + 1)

-- Read a script from its parts, with the place where it ends, or tell what is wrong with it and how
-- serious that is.
def Commands.parse (extended : Bool) (parts : List (Origin × String)) :
    Except (String × Nat) (Commands × String) := do
  let read : Reader Unit := parts.forM fun (origin, text) => readPart origin text
  let (_, s) ← (read.run { extended := extended }).mapError fun text =>
    (text, if text = Regex.bareClass then 4 else 1)
  match s.blocks with
  | (_, place) :: _ => throw (place ++ "unmatched `\x7b'", 1)
  | [] => pure ()
  match s.commands.missingLabel? with
  | some label => throw ("can't find label for jump to `" ++ label ++ "'", 4)
  | none => return (s.commands, s.origin.place 0 s.line)

end Rulebook.Script.Edit
