import Rulebook.Script.Condition
import Rulebook.Script.Format
import Rulebook.Script.Regex
import Rulebook.Script.Tool.Stream

namespace Rulebook.Script

-- Programs that compute values and print them.

namespace Echoing

-- The options in front of a text: whether a line end follows it, and whether it has escapes.
def options : List String → (ends escapes : Bool) → List String × Bool × Bool
  | a :: args, ends, escapes =>
    match a.toList with
    | '-' :: c :: r =>
      if (c :: r).all (· ∈ ['n', 'e', 'E']) then
        let escapes := (c :: r).foldl
          (fun e c => if c = 'e' then true else if c = 'E' then false else e) escapes
        options args (ends && 'n' ∉ c :: r) escapes
      else (a :: args, ends, escapes)
    | _ => (a :: args, ends, escapes)
  | [], ends, escapes => ([], ends, escapes)

end Echoing

def echoTool (args : List String) : Work Nat := do
  let (args, ends, escapes) := Echoing.options args true false
  let text := " ".intercalate args
  let (text, stopped) := if escapes then Escapes.programText.replaced text else (text, false)
  print (if ends && !stopped then text ++ "\n" else text)
  return 0

def printfTool (args : List String) : Work Nat := do
  match if args.head? = some "--" then args.tail else args with
  | [] => misuse "printf" "missing operand" 1
  | format :: args =>
    let f := Filling.ofFormat true format args
    f.complaints.reverse.forM fun c => toolComplain "printf" c
    print f.text
    return if f.complaints.isEmpty then 0 else 1

-- What the files of this machine are like.
def fileFacts (s : Shell) : Condition.Facts where
  file test path :=
    let stream := streamPath? (Machine.resolve s.folder path)
    match Machine.devices.lookup (Machine.resolve s.folder path), stream with
    | some _, _ => test ∈ ["-e", "-c", "-r", "-w"]
    | none, some n =>
      match s.opened n with
      | .ok { device := .pipe _, .. } => test ∈ ["-e", "-p", "-r", "-w"]
      | .ok _ => test ∈ ["-e", "-r", "-w"]
      | .error _ => false
    | none, none =>
      match s.machine.find s.folder path with
      | .ok (_, some .folder) => test ∈ ["-e", "-d", "-r", "-w", "-x", "-s", "-O", "-G"]
      | .ok (_, some (.file text executable)) =>
        if test = "-x" then executable
        else if test = "-s" then executable || !text.isEmpty
        else test ∈ ["-e", "-f", "-r", "-w", "-O", "-G"]
      | _ => false
  files test a b :=
    let found (p : String) : Option String :=
      match s.machine.find s.folder p with
      | .ok (full, some _) => some full
      | _ => none
    match test with
    | "-nt" => (found a).isSome && (found b).isNone
    | "-ot" => (found a).isNone && (found b).isSome
    | _ => (found a).isSome && found a = found b

def testTool (tool : String) (args : List String) : Work Nat := do
  let check (args : List String) : Work Nat := do
    match Condition.check (fileFacts (← get)) args with
    | .ok b => return if b then 0 else 1
    | .error text =>
      toolComplain tool text
      return 2
  if tool = "[" then
    if args.getLast? = some "]" then check args.dropLast
    else
      toolComplain tool "missing ']'"
      return 2
  else check args

namespace Counted

-- Numbers with so many digits behind the point.
structure Decimal where
  scaled : Int
  places : Nat
  -- how wide the number was written
  width : Nat
  deriving DecidableEq

-- A number that is written without a power of ten, or with a small one.
def decimal? (s : String) : Option Decimal :=
  let (negative, cs) :=
    match s.toList with
    | '-' :: r => (true, r)
    | '+' :: r => (false, r)
    | r => (false, r)
  let (whole, r) := cs.span Char.isDigit
  let (fraction, r) :=
    match r with
    | '.' :: r => r.span Char.isDigit
    | r => ([], r)
  if whole.isEmpty && fraction.isEmpty then none
  else
    let sign (n : Nat) : Int := if negative then -(n : Int) else n
    match r with
    | [] =>
      let width := (if negative then 1 else 0) + max 1 whole.length +
        if fraction.isEmpty then 0 else fraction.length + 1
      some ⟨sign (ofDigits 10 (whole ++ fraction)), fraction.length, width⟩
    | x :: r =>
      if (x = 'x' || x = 'X') && whole = ['0'] && fraction.isEmpty && !r.isEmpty &&
          r.all (isDigitOf 16) then
        some ⟨sign (ofDigits 16 r), 0, s.length⟩
      else if x = 'e' || x = 'E' then
        match natural? (String.ofList (if r.head? = some '+' then r.tail else r)) with
        | some e =>
          if e > 30 then none
          else
            let n := ofDigits 10 (whole ++ fraction) * Nat.pow 10 (e - fraction.length)
            if fraction.length > e then none
            else some ⟨sign n, 0, (toString n).length + if negative then 1 else 0⟩
        | none => none
      else none

def Decimal.at (places : Nat) (d : Decimal) : Int :=
  d.scaled * Int.ofNat (Nat.pow 10 (places - d.places))

def text (places : Nat) (n : Int) : String :=
  (if n < 0 then "-" else "") ++ Dyadic.pointed (toString n.natAbs) places false

-- Digits with zeros in front.
def widened (width : Nat) (s : String) : String :=
  match s.toList with
  | '-' :: r => "-" ++ String.ofList (List.replicate (width - s.length) '0') ++ String.ofList r
  | _ => String.ofList (List.replicate (width - s.length) '0') ++ s

def amountOf (places : Nat) (n : Int) : Amount :=
  (Amount.ofRatio .extended (n < 0) n.natAbs (Nat.pow 10 places)).1

-- The text in front of a directive, where two percent signs are one, and what follows the text.
def upToDirective : List Char → List Char × List Char
  | '%' :: '%' :: r =>
    let (text, rest) := upToDirective r
    ('%' :: text, rest)
  | '%' :: r => ([], '%' :: r)
  | c :: r =>
    let (text, rest) := upToDirective r
    (c :: text, rest)
  | [] => ([], [])

-- The directive in a format, with the texts around it.
def directive? (format : String) : Except String (String × Directive × String) :=
  match upToDirective format.toList with
  | (before, '%' :: r) =>
    let (d, cs) := Directive.flags r {}
    let (d, cs, _) := Filling.sizes cs d { arguments := [] }
    match cs with
    | kind :: rest =>
      if kind ∈ ['a', 'A', 'e', 'E', 'f', 'F', 'g', 'G'] then
        let (after, more) := upToDirective rest
        if more.isEmpty then
          .ok (String.ofList before, { d with kind := kind }, String.ofList after)
        else .error ("format " ++ quoted format ++ " has too many % directives")
      else
        .error
          ("format " ++ quoted format ++ " has unknown %" ++ String.singleton kind ++ " directive")
    | [] => .error ("format " ++ quoted format ++ " ends in %")
  | _ => .error ("format " ++ quoted format ++ " has no % directive")

def forms : List OptionForm :=
  [⟨'f', "format", .value⟩, ⟨'s', "separator", .value⟩, ⟨'w', "equal-width", .nothing⟩]

-- Numbers that start with a sign are no options.
def marked (args : List String) : List String :=
  match args with
  | [] => []
  | a :: r =>
    match a.toList with
    | '-' :: c :: _ =>
      if c.isDigit || c = '.' then "--" :: a :: r
      else if a = "--" then a :: r
      else if a = "-f" || a = "-s" then a :: r.take 1 ++ marked' r.tail
      else a :: marked' r
    | _ => "--" :: a :: r
where
  marked' (r : List String) : List String :=
    match r with
    | [] => []
    | a :: r' =>
      match a.toList with
      | '-' :: c :: _ =>
        if c.isDigit || c = '.' then "--" :: a :: r'
        else if a = "--" then a :: r'
        else if a = "-f" || a = "-s" then a :: r'.take 1 ++ plain r'.tail
        else a :: plain r'
      | _ => "--" :: a :: r'
  plain (r : List String) : List String :=
    match r with
    | [] => []
    | a :: _ => if a = "--" || (a.startsWith "-" && !(a.toList.getD 1 'x').isDigit) then r
      else "--" :: r

-- How many numbers there are from a first one to a last one.
def count (first step last : Int) : Nat :=
  if step > 0 && first ≤ last then ((last - first) / step + 1).toNat
  else if step < 0 && last ≤ first then ((first - last) / (-step) + 1).toNat
  else 0

-- Nobody reads so many numbers.
def endless : Nat := 3000000

def numbers (count : Nat) (first step : Int) : List Int :=
  (List.range count).map fun (k : Nat) => first + step * (k : Int)

end Counted

open Counted in
def seqTool (args : List String) : Work Nat :=
  withOptions "seq" Counted.forms 1 (marked args) fun g => do
    let read := g.operands.map fun a => (a, decimal? a)
    match read.find? (·.2.isNone), g.operands.length with
    | some (a, _), _ => misuse "seq" ("invalid floating point argument: " ++ quoted a) 1
    | none, 0 => misuse "seq" "missing operand" 1
    | none, n =>
      if n > 3 then misuse "seq" ("extra operand '" ++ g.operands.getD 3 "" ++ "'") 1
      else
        let one : Decimal := ⟨1, 0, 1⟩
        let ds := read.filterMap (·.2)
        let (first, step, last) :=
          match ds with
          | [l] => (one, one, l)
          | [f, l] => (f, one, l)
          | f :: s :: l :: _ => (f, s, l)
          | [] => (one, one, one)
        if step.scaled = 0 then
          misuse "seq" ("invalid Zero increment value: '" ++ g.operands.getD 1 "" ++ "'") 1
        else
          let places := max first.places step.places
          let exact := max places last.places
          let total := count (first.at exact) (step.at exact) (last.at exact)
          let isEndless := total > endless
          let values :=
            numbers (if isEndless then endless / 10 else total) (first.at exact) (step.at exact)
          let shown (n : Int) : String :=
            text places (n / Int.ofNat (Nat.pow 10 (exact - places)))
          let width (d : Decimal) : Nat :=
            d.width - (if d.places > 0 then d.places + 1 else 0) +
              if places > 0 then places + 1 else 0
          let separator := (g.value? 's').getD "\n"
          match (g.value? 'f').map directive? with
          | some (.error text) =>
            toolComplain "seq" text
            return 1
          | some (.ok (before, d, after)) =>
            let texts := values.map fun n =>
              before ++ d.ofAmount .extended (amountOf exact n) ++ after
            tell isEndless separator texts
          | none =>
            let w := if g.has 'w' then max (width first) (width last) else 0
            let texts := values.map fun n => widened w (shown n)
            tell isEndless separator texts
where
  -- The next piece of numbers without end finds a pipe full.
  tell (isEndless : Bool) (separator : String) (texts : List String) : Work Nat := do
    if !texts.isEmpty then print (separator.intercalate texts ++ "\n")
    if isEndless then
      print "\n"
      if (← get).refusal.isNone then setFlow .endless
    return 0

namespace Expression

-- What is wrong with an expression, and the status for it.
abbrev Reader := StateT (List String × String) (Except String)

def isInteger (s : String) : Bool :=
  match s.toList with
  | '-' :: c :: r => (c :: r).all Char.isDigit
  | c :: r => (c :: r).all Char.isDigit
  | [] => false

def integerOf (s : String) : Int :=
  match s.toList with
  | '-' :: r => -(ofDigits 10 r : Int)
  | r => (ofDigits 10 r : Int)

def isNull (s : String) : Bool :=
  s = "" || (isInteger s && integerOf s = 0)

def peek : Reader (Option String) :=
  return (← get).1.head?

def skip : Reader Unit :=
  modify fun (ws, last) => (ws.tail, ws.headD last)

def truthText (b : Bool) : String :=
  if b then "1" else "0"

-- What a pattern fits at the front of a text: its first group, or how long it is.
def fitting (s pattern : String) : Reader String := do
  match Regex.parse {} pattern with
  | .error text => throw text
  | .ok r =>
    let t : Regex.Subject := { chars := s.toList.toArray }
    let hasGroup := (pattern.splitOn "\\(").length > 1
    match r.fitAt? t 0 with
    | none => return if hasGroup then "" else "0"
    | some e =>
      if hasGroup then
        match e.groups.lookup 1 with
        | some (i, j) => return t.slice i j
        | none => return ""
      else return toString e.place

def compareTexts (op a b : String) : Bool :=
  let order := if isInteger a && isInteger b then compare (integerOf a) (integerOf b)
    else compare a b
  match op with
  | "<" => order = .lt
  | "<=" => order ≠ .gt
  | "=" | "==" => order = .eq
  | "!=" => order ≠ .eq
  | ">=" => order ≠ .lt
  | _ => order = .gt

def arithmetic (op a b : String) : Reader String := do
  if !isInteger a || !isInteger b then throw "non-integer argument"
  let m := integerOf a
  let n := integerOf b
  match op with
  | "+" => return toString (m + n)
  | "-" => return toString (m - n)
  | "*" => return toString (m * n)
  | "/" => if n = 0 then throw "division by zero" else return toString (m.tdiv n)
  | _ => if n = 0 then throw "division by zero" else return toString (m.tmod n)

-- The operators by how tightly they bind, the loosest first.
def levels : List (List String) :=
  [["|"], ["&"], ["<", "<=", "=", "==", "!=", ">=", ">"], ["+", "-"], ["*", "/", "%"], [":"]]

-- Whether the value behind an operator matters, when the one in front of it is this one.
def wantsSecond (op a : String) : Bool :=
  if op = "|" then isNull a else op ≠ "&" || !isNull a

-- What an operator makes of two values. What could fail is left out where the value does not
-- matter.
def operate (wanted : Bool) (op a b : String) : Reader String := do
  if op = "|" then return if !isNull a then a else if !isNull b then b else "0"
  else if op = "&" then return if !isNull a && !isNull b then a else "0"
  else if op ∈ ["+", "-", "*", "/", "%"] then if wanted then arithmetic op a b else return a
  else if op = ":" then if wanted then fitting a b else return a
  else return truthText (compareTexts op a b)

mutual

def level : (fuel : Nat) → (wanted : Bool) → List (List String) → Reader String
  | 0, _, _ => throw "too long"
  | fuel + 1, wanted, [] => operand fuel wanted
  | fuel + 1, wanted, ops :: levels => do
    operations fuel wanted ops levels (← level fuel wanted levels)

def operations :
    (fuel : Nat) → (wanted : Bool) → List String → List (List String) → String → Reader String
  | 0, _, _, _, _ => throw "too long"
  | fuel + 1, wanted, ops, levels, a => do
    match ← peek with
    | some op =>
      if op ∈ ops then
        skip
        let b ← level fuel (wanted && wantsSecond op a) levels
        operations fuel wanted ops levels (← operate wanted op a b)
      else return a
    | none => return a

def operand : (fuel : Nat) → (wanted : Bool) → Reader String
  | 0, _ => throw "too long"
  | fuel + 1, wanted => do
    let missing : Reader String := do
      throw ("syntax error: missing argument after '" ++ (← get).2 ++ "'")
    match ← peek with
    | none => missing
    | some "(" =>
      skip
      let a ← level fuel wanted levels
      match ← peek with
      | some ")" =>
        skip
        return a
      | some s => throw ("syntax error: expecting ')' instead of " ++ quoted s)
      | none => throw ("syntax error: expecting ')' after '" ++ (← get).2 ++ "'")
    | some ")" => throw "syntax error: unexpected ')'"
    | some "+" =>
      skip
      match ← peek with
      | some s =>
        skip
        return s
      | none => missing
    | some "length" =>
      skip
      return toString (← operand fuel wanted).length
    | some "match" =>
      skip
      let s ← operand fuel wanted
      let pattern ← operand fuel wanted
      if wanted then fitting s pattern else return s
    | some "index" =>
      skip
      let s ← operand fuel wanted
      let cs := (← operand fuel wanted).toList
      return toString ((s.toList.findIdx? (· ∈ cs)).elim 0 (· + 1))
    | some "substr" =>
      skip
      let s ← operand fuel wanted
      let i ← operand fuel wanted
      let n ← operand fuel wanted
      if !isInteger i || !isInteger n || integerOf i ≤ 0 || integerOf n ≤ 0 then return ""
      else return String.ofList ((s.toList.drop ((integerOf i).toNat - 1)).take (integerOf n).toNat)
    | some s =>
      skip
      return s

end

def evaluate (args : List String) : Except String String := do
  let (value, (rest, _)) ← (level (16 * args.length + 16) true levels).run (args, "")
  match rest with
  | [] => return value
  | a :: _ => throw ("syntax error: unexpected argument " ++ quoted a)

end Expression

def exprTool (args : List String) : Work Nat := do
  let args := if args.head? = some "--" then args.tail else args
  if args.isEmpty then misuse "expr" "missing operand" 2
  else
    match Expression.evaluate args with
    | .error text =>
      toolComplain "expr" text
      return 2
    | .ok value =>
      printLine value
      return if Expression.isNull value then 1 else 0

namespace Naming

def withoutSlashes (s : String) : String :=
  String.ofList (s.toList.reverse.dropWhile (· = '/')).reverse

-- The last name of a path, without an ending that is not all of it.
def baseName (suffix s : String) : String :=
  if s = "" then ""
  else
    let trimmed := withoutSlashes s
    if trimmed = "" then "/"
    else
      let name := String.ofList (trimmed.toList.reverse.takeWhile (· ≠ '/')).reverse
      if suffix ≠ "" && name ≠ suffix && name.endsWith suffix then
        String.ofList (name.toList.take (name.length - suffix.length))
      else name

def folderName (s : String) : String :=
  let trimmed := withoutSlashes s
  if trimmed = "" then (if s = "" then "." else "/")
  else
    let folder := String.ofList (trimmed.toList.reverse.dropWhile (· ≠ '/')).reverse
    if folder = "" then "."
    else
      let folder := withoutSlashes folder
      if folder = "" then "/" else folder

end Naming

def basenameTool (args : List String) : Work Nat := do
  let forms : List OptionForm :=
    [⟨'a', "multiple", .nothing⟩, ⟨'s', "suffix", .value⟩, ⟨'z', "zero", .nothing⟩]
  match OptionForm.parse forms false args with
  | .error text => misuse "basename" text 1
  | .ok g =>
    let stop := if g.has 'z' then "\x00" else "\n"
    let suffix := (g.value? 's').getD ""
    match g.operands with
    | [] => misuse "basename" "missing operand" 1
    | names =>
      if g.has 'a' || g.has 's' then
        print (String.join (names.map fun n => Naming.baseName suffix n ++ stop))
        return 0
      else
        match names with
        | [n] =>
          print (Naming.baseName "" n ++ stop)
          return 0
        | [n, s] =>
          print (Naming.baseName s n ++ stop)
          return 0
        | _ => misuse "basename" ("extra operand '" ++ names.getD 2 "" ++ "'") 1

def dirnameTool (args : List String) : Work Nat :=
  withOptions "dirname" [⟨'z', "zero", .nothing⟩] 1 args fun g => do
    if g.operands.isEmpty then misuse "dirname" "missing operand" 1
    else
      let stop := if g.has 'z' then "\x00" else "\n"
      print (String.join (g.operands.map fun n => Naming.folderName n ++ stop))
      return 0

-- As much as fits before anybody reads it. Where everything fits, there is no end.
def yesTool (args : List String) : Work Nat := do
  let args := if args.head? = some "--" then args.tail else args
  let line := (if args.isEmpty then "y" else " ".intercalate args) ++ "\n"
  let room := (← get).machine.room
  print (String.join (List.replicate (room / line.length + 2) line))
  -- the next piece finds the pipe full
  print line
  if (← get).refusal.isNone then setFlow .endless
  return 1

-- The prime factors of a number from a first one on.
def primeFactors : (fuel : Nat) → (first n : Nat) → List Nat
  | 0, _, n => [n]
  | fuel + 1, d, n =>
    if n < 2 then []
    else if d * d > n then [n]
    else if n % d = 0 then d :: primeFactors fuel d (n / d)
    else primeFactors fuel (d + 1) n

def factorTool (args : List String) : Work Nat := do
  let words ←
    if args.isEmpty then
      match ← readAll 0 with
      | .error e =>
        toolComplain "factor" ("error reading input: " ++ e.text)
        return 1
      | .ok text => pure (((text.toList.splitOnP isSpace).filter (!·.isEmpty)).map String.ofList)
    else pure args
  let statuses ← words.mapM fun w => do
    match natural? w with
    | some n =>
      let factors := primeFactors 1000000 2 n
      printLine (w ++ ":" ++ String.join (factors.map fun f => " " ++ toString f))
      return 0
    | none =>
      toolComplain "factor" (quoted w ++ " is not a valid positive integer")
      return 1
  return statuses.foldl max 0

namespace Encoding

def alphabet : List Char :=
  "ABCDEFGHIJKLMNOPQRSTUVWXYZabcdefghijklmnopqrstuvwxyz0123456789+/".toList

-- Three bytes as four characters.
def encode : List Char → List Char
  | a :: b :: c :: r =>
    let n := (a.toNat * 256 + b.toNat) * 256 + c.toNat
    sextets n 4 ++ encode r
  | [a, b] => sextets ((a.toNat * 256 + b.toNat) * 256) 3 ++ ['=']
  | [a] => sextets (a.toNat * 65536) 2 ++ ['=', '=']
  | [] => []
where
  sextets (n count : Nat) : List Char :=
    ([n / 262144, n / 4096, n / 64, n].take count).map fun k => alphabet.getD (k % 64) 'A'

def decode : List Char → Option (List Char)
  | a :: b :: c :: d :: r => do
    let i ← alphabet.idxOf? a
    let j ← alphabet.idxOf? b
    if c = '=' then
      if d = '=' && r.isEmpty then return [Char.ofNat ((i * 64 + j) / 16)] else none
    else
      let k ← alphabet.idxOf? c
      if d = '=' then
        if r.isEmpty then
          let n := (i * 64 + j) * 64 + k
          return [Char.ofNat (n / 1024), Char.ofNat (n / 4 % 256)]
        else none
      else
        let l ← alphabet.idxOf? d
        let n := ((i * 64 + j) * 64 + k) * 64 + l
        let rest ← decode r
        return Char.ofNat (n / 65536) :: Char.ofNat (n / 256 % 256) :: Char.ofNat (n % 256) :: rest
  | [] => some []
  | _ => none

end Encoding

def base64Tool (args : List String) : Work Nat := do
  let forms : List OptionForm :=
    [⟨'d', "decode", .nothing⟩, ⟨'i', "ignore-garbage", .nothing⟩, ⟨'w', "wrap", .value⟩]
  withOptions "base64" forms 1 args fun g => do
    let (text, status) ← readTogether "base64" "" g.operands 1
    if g.has 'd' then
      match Encoding.decode (text.toList.filter (· ≠ '\n')) with
      | some cs =>
        print (String.ofList cs)
        return status
      | none =>
        toolComplain "base64" "invalid input"
        return 1
    else
      let width := ((g.value? 'w').bind natural?).getD 76
      let cs := Encoding.encode text.toList
      let lines := if width = 0 then [cs] else chunks width (cs.length + 1) cs
      print (String.ofList (['\n'].intercalate lines) ++
        if width = 0 || cs.isEmpty then "" else "\n")
      return status

end Rulebook.Script
