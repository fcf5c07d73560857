import Rulebook.Script.Decimal
import Rulebook.Script.Format
import Rulebook.Script.Scan.Program

namespace Rulebook.Script.Scan

-- Reading the text of programs for records.

inductive Token
  | number (x : Float)
  | text (s : String)
  | regex (s : String)
  | name (s : String)
  -- a name with a bracket right behind it
  | called (s : String)
  | keyword (s : String)
  | builtin (s : String)
  | sign (s : String)
  | newline
  deriving Inhabited, BEq

namespace Token

def keywords : List String :=
  ["BEGIN", "END", "function", "func", "if", "else", "while", "for", "do", "break", "continue",
   "next", "nextfile", "exit", "return", "delete", "in", "getline", "print", "printf"]

def builtins : List String :=
  ["length", "substr", "index", "split", "sub", "gsub", "match", "sprintf", "sin", "cos", "atan2",
   "exp", "log", "sqrt", "int", "rand", "srand", "tolower", "toupper", "system", "close", "fflush"]

-- The longer ones come first.
def signs : List String :=
  ["&&", "||", "==", "!=", "<=", ">=", "++", "--", "+=", "-=", "*=", "/=", "%=", "^=", ">>", "!~",
   "\x7b", "\x7d", "(", ")", "[", "]", ";", ",", "+", "-", "*", "/", "%", "^", "!", ">", "<", "|",
   "?", ":", "~", "$", "="]

-- Whether a slash after this divides.
def endsOperand : Option Token → Bool
  | some (.number _) | some (.text _) | some (.regex _) | some (.name _) => true
  | some (.sign s) => s ∈ [")", "]", "++", "--"]
  | some (.builtin s) => s = "length"
  | _ => false

def escapes : List (Char × Char) :=
  ('/', '/') :: ('"', '"') :: Escapes.simple.filter (·.1 ≠ 'e')

-- The characters of a text up to its end, and what follows.
def quoted? : List Char → Option (List Char × List Char)
  | '"' :: r => some ([], r)
  | '\\' :: '\n' :: r => quoted? r
  | '\\' :: c :: r =>
    match escapes.lookup c with
    | some d => (quoted? r).map fun (s, r) => (d :: s, r)
    | none =>
      if isDigitOf 8 c then
        let ds := ((c :: r).take 3).takeWhile (isDigitOf 8)
        let rest := (c :: r).drop ds.length
        if rest.length < r.length + 2 then
          (quoted? rest).map fun (s, r) => (Escapes.byte (ofDigits 8 ds) :: s, r)
        else none
      else (quoted? r).map fun (s, r) => ('\\' :: c :: s, r)
  | '\n' :: _ | [] => none
  | c :: r => (quoted? r).map fun (s, r) => (c :: s, r)
termination_by cs => cs.length
decreasing_by all_goals (simp only [List.length_cons] at *; omega)

-- An expression up to the slash that ends it, and what follows.
def slashed? : List Char → Option (List Char × List Char)
  | '/' :: r => some ([], r)
  | '\\' :: '/' :: r => (slashed? r).map fun (s, r) => ('/' :: s, r)
  | '\\' :: c :: r => (slashed? r).map fun (s, r) => ('\\' :: c :: s, r)
  | '\n' :: _ | [] => none
  | c :: r => (slashed? r).map fun (s, r) => (c :: s, r)

-- The tokens of a program. What was read before tells what a slash means.
def ofText? : (fuel : Nat) → (before : Option Token) → List Char → Option (List Token)
  | 0, _, _ => none
  | _ + 1, _, [] => some []
  | fuel + 1, before, c :: r =>
    let next (t : Token) (r : List Char) : Option (List Token) :=
      (ofText? fuel (some t) r).map (t :: ·)
    if c = ' ' || c = '\t' || c = '\r' then ofText? fuel before r
    else if c = '\\' && r.head? = some '\n' then ofText? fuel before r.tail
    else if c = '#' then ofText? fuel before (r.dropWhile (· ≠ '\n'))
    else if c = '\n' then next .newline r
    else if c = '"' then
      (quoted? r).bind fun (s, r) => next (.text (String.ofList s)) r
    else if c = '/' && !endsOperand before then
      (slashed? r).bind fun (s, r) => next (.regex (String.ofList s)) r
    else if c.isDigit || (c = '.' && r.head?.any Char.isDigit) then
      (leadingFloat? false (c :: r)).bind fun (x, r) => next (.number x) r
    else if isNameStart c then
      let (s, r) := (c :: r).span isNameChar
      let s := String.ofList s
      if s ∈ keywords then next (.keyword s) r
      else if s ∈ builtins then next (.builtin s) r
      else if r.head? = some '(' then next (.called s) r
      else next (.name s) r
    else
      match signs.find? fun s => s.toList.isPrefixOf (c :: r) with
      | some s => next (.sign s) ((c :: r).drop s.length)
      | none => none

end Token

-- The tokens that are left.
abbrev Reader := StateT (List Token) (Except String)

namespace Reader

def wrong {α : Type} : Reader α :=
  throw "syntax error"

def peek : Reader (Option Token) :=
  return (← get).head?

def skip : Reader Unit :=
  modify List.tail

def isNext (t : Token) : Reader Bool :=
  return (← get).head? == some t

def accept (t : Token) : Reader Bool := do
  if ← isNext t then
    skip
    return true
  else return false

def expect (t : Token) : Reader Unit := do
  if !(← accept t) then wrong

def sign (s : String) : Reader Unit :=
  expect (.sign s)

def acceptSign (s : String) : Reader Bool :=
  accept (.sign s)

def skipLines : Reader Unit :=
  modify fun ts => ts.dropWhile (· == .newline)

-- Leave out what may separate statements.
def skipEnds : Reader Unit :=
  modify fun ts => ts.dropWhile fun t => t == .newline || t == .sign ";"

def aName : Reader String := do
  match ← peek with
  | some (.name s) | some (.called s) =>
    skip
    return s
  | _ => wrong

end Reader

open Scan.Reader

def assignments : List (String × Option Operator) :=
  [("=", none), ("+=", some .add), ("-=", some .subtract), ("*=", some .multiply),
   ("/=", some .divide), ("%=", some .remainder), ("^=", some .power)]

def comparisons : List (String × Comparison) :=
  [("<", .less), ("<=", .atMost), ("==", .same), ("!=", .different), (">", .more),
   (">=", .atLeast)]

-- Whether something that is joined to what came before starts here.
def startsOperand : Option Token → Bool
  | some (.number _) | some (.text _) | some (.regex _) | some (.name _) | some (.called _)
  | some (.builtin _) => true
  | some (.sign s) => s ∈ ["$", "(", "++", "--"]
  | _ => false

-- A regular expression that is written in the program.
def regexOf (s : String) : Reader Regex :=
  match Regex.parse { extended := true, controls := true, lenient := true } s with
  | .ok r => return r
  | .error e => throw e

-- Fuel bounds the number of nested calls. Between two tokens there are fewer than so many.
def depthPerToken : Nat := 16

mutual

-- An expression. Where something is printed, the sign for more tells where to.
def ternary (prints : Bool) : (fuel : Nat) → Reader Expr
  | 0 => wrong
  | fuel + 1 => do
    let test ← disjunction prints fuel
    if ← acceptSign "?" then
      skipLines
      let success ← ternary prints fuel
      skipLines
      sign ":"
      skipLines
      return .choice test success (← ternary prints fuel)
    else return test

def disjunction (prints : Bool) : (fuel : Nat) → Reader Expr
  | 0 => wrong
  | fuel + 1 => do
    let first ← conjunction prints fuel
    more prints fuel first
where
  more (prints : Bool) : (fuel : Nat) → Expr → Reader Expr
    | 0, _ => wrong
    | fuel + 1, first => do
      if ← acceptSign "||" then
        skipLines
        more prints fuel (.either first (← conjunction prints fuel))
      else return first

def conjunction (prints : Bool) : (fuel : Nat) → Reader Expr
  | 0 => wrong
  | fuel + 1 => do
    let first ← membership prints fuel
    more prints fuel first
where
  more (prints : Bool) : (fuel : Nat) → Expr → Reader Expr
    | 0, _ => wrong
    | fuel + 1, first => do
      if ← acceptSign "&&" then
        skipLines
        more prints fuel (.both first (← membership prints fuel))
      else return first

def membership (prints : Bool) : (fuel : Nat) → Reader Expr
  | 0 => wrong
  | fuel + 1 => do
    let first ← fitting prints fuel
    more fuel first
where
  more : (fuel : Nat) → Expr → Reader Expr
    | 0, _ => wrong
    | fuel + 1, first => do
      if ← accept (.keyword "in") then
        let subscripts := match first with
          | .grouped es => es
          | e => [e]
        more fuel (.member subscripts (← aName))
      else return first

def fitting (prints : Bool) : (fuel : Nat) → Reader Expr
  | 0 => wrong
  | fuel + 1 => do
    let first ← comparing prints fuel
    more prints fuel first
where
  more (prints : Bool) : (fuel : Nat) → Expr → Reader Expr
    | 0, _ => wrong
    | fuel + 1, first => do
      if ← acceptSign "~" then more prints fuel (.fits first (← comparing prints fuel) true)
      else if ← acceptSign "!~" then more prints fuel (.fits first (← comparing prints fuel) false)
      else return first

def comparing (prints : Bool) : (fuel : Nat) → Reader Expr
  | 0 => wrong
  | fuel + 1 => do
    let first ← joining fuel
    more prints fuel first
where
  more (prints : Bool) : (fuel : Nat) → Expr → Reader Expr
    | 0, _ => wrong
    | fuel + 1, first => do
      match ← peek with
      | some (.sign s) =>
        match if s = ">" && prints then none else comparisons.lookup s with
        | some c =>
          skip
          more prints fuel (.compared c first (← joining fuel))
        | none => return first
      | _ => return first

def joining : (fuel : Nat) → Reader Expr
  | 0 => wrong
  | fuel + 1 => do
    let first ← adding fuel
    more fuel first
where
  more : (fuel : Nat) → Expr → Reader Expr
    | 0, _ => wrong
    | fuel + 1, first => do
      if startsOperand (← peek) then more fuel (.joined first (← adding fuel))
      else return first

def adding : (fuel : Nat) → Reader Expr
  | 0 => wrong
  | fuel + 1 => do
    let first ← multiplying fuel
    more fuel first
where
  more : (fuel : Nat) → Expr → Reader Expr
    | 0, _ => wrong
    | fuel + 1, first => do
      if ← acceptSign "+" then more fuel (.arithmetic .add first (← multiplying fuel))
      else if ← acceptSign "-" then more fuel (.arithmetic .subtract first (← multiplying fuel))
      else return first

def multiplying : (fuel : Nat) → Reader Expr
  | 0 => wrong
  | fuel + 1 => do
    let first ← unary fuel
    more fuel first
where
  more : (fuel : Nat) → Expr → Reader Expr
    | 0, _ => wrong
    | fuel + 1, first => do
      if ← acceptSign "*" then more fuel (.arithmetic .multiply first (← unary fuel))
      else if ← acceptSign "/" then more fuel (.arithmetic .divide first (← unary fuel))
      else if ← acceptSign "%" then more fuel (.arithmetic .remainder first (← unary fuel))
      else return first

def unary : (fuel : Nat) → Reader Expr
  | 0 => wrong
  | fuel + 1 => do
    if ← acceptSign "!" then return .negated (← unary fuel)
    else if ← acceptSign "-" then return .signed true (← unary fuel)
    else if ← acceptSign "+" then return .signed false (← unary fuel)
    else
      let first ← piped fuel
      if ← acceptSign "^" then return .arithmetic .power first (← unary fuel)
      else return first

-- Lines may be read from what a command writes.
def piped : (fuel : Nat) → Reader Expr
  | 0 => wrong
  | fuel + 1 => do
    let first ← operand fuel
    more fuel first
where
  more : (fuel : Nat) → Expr → Reader Expr
    | 0, _ => wrong
    | fuel + 1, first => do
      match ← get with
      | .sign "|" :: .keyword "getline" :: rest =>
        set rest
        more fuel (.readLine .command first (← target? fuel))
      | _ => return first

-- Something that is given a value, if it is there.
def target? : (fuel : Nat) → Reader (Option Expr)
  | 0 => wrong
  | fuel + 1 => do
    match ← peek with
    | some (.name _) | some (.sign "$") => return some (← primary fuel)
    | _ => return none

-- Something with the signs behind it that change it.
def operand : (fuel : Nat) → Reader Expr
  | 0 => wrong
  | fuel + 1 => do
    let e ← primary fuel
    if e.isTarget then
      match ← peek with
      | some (.sign "++") =>
        skip
        return .step e true false
      | some (.sign "--") =>
        skip
        return .step e false false
      | some (.sign s) =>
        match assignments.lookup s with
        | some operator =>
          skip
          skipLines
          return .assign e operator (← ternary false fuel)
        | none => return e
      | _ => return e
    else return e

def primary : (fuel : Nat) → Reader Expr
  | 0 => wrong
  | fuel + 1 => do
    match ← peek with
    | some (.number x) =>
      skip
      return .number x
    | some (.text s) =>
      skip
      return .text s
    | some (.regex s) =>
      skip
      return .regex (← regexOf s)
    | some (.name n) =>
      skip
      if ← acceptSign "[" then return .item n (← expressions fuel "]")
      else return .name n
    | some (.called n) =>
      skip
      sign "("
      return .call n (← expressions fuel ")")
    | some (.builtin n) =>
      skip
      if ← acceptSign "(" then return .builtin n (← expressions fuel ")")
      else if n = "length" then return .builtin n []
      else wrong
    | some (.keyword "getline") =>
      skip
      let target ← target? fuel
      if ← acceptSign "<" then return .readLine .file (← primary fuel) target
      else return .readLine .input (.text "") target
    | some (.sign "$") =>
      skip
      if ← acceptSign "-" then return .field (.signed true (← primary fuel))
      else return .field (← primary fuel)
    | some (.sign "++") =>
      skip
      return .step (← primary fuel) true true
    | some (.sign "--") =>
      skip
      return .step (← primary fuel) false true
    | some (.sign "(") =>
      skip
      match ← expressions fuel ")" with
      | [] => wrong
      | es => return .grouped es
    | _ => wrong

-- Expressions with commas between them, up to a bracket.
def expressions : (fuel : Nat) → (stop : String) → Reader (List Expr)
  | 0, _ => wrong
  | fuel + 1, stop => do
    if ← acceptSign stop then return []
    else more fuel stop
where
  more : (fuel : Nat) → (stop : String) → Reader (List Expr)
    | 0, _ => wrong
    | fuel + 1, stop => do
      skipLines
      let e ← ternary false fuel
      skipLines
      if ← acceptSign stop then return [e]
      else
        sign ","
        return e :: (← more fuel stop)

end

-- Whether a statement without a body of its own ends here.
def endsHere : Reader Bool := do
  match ← peek with
  | none | some .newline | some (.sign ";") | some (.sign "\x7d") => return true
  | _ => return false

def endStatement : Reader Unit := do
  if !(← acceptSign ";") && !(← accept .newline) && !(← endsHere) then wrong

-- What is printed and where it goes.
def printing (fuel : Nat) (formatted : Bool) : Reader Statement := do
  let es ← items fuel
  let target ←
    match ← peek with
    | some (.sign ">") => toSink .file
    | some (.sign ">>") => toSink .append
    | some (.sign "|") => toSink .command
    | _ => pure none
  return .print formatted es target
where
  toSink (sink : Sink) : Reader (Option (Sink × Expr)) := do
    skip
    return some (sink, ← joining fuel)
  items : (fuel : Nat) → Reader (List Expr)
    | 0 => wrong
    | left + 1 => do
      match ← peek with
      | some (.sign ">") | some (.sign ">>") | some (.sign "|") => return []
      | _ =>
        if ← endsHere then return []
        let e ← ternary true fuel
        if ← acceptSign "," then
          skipLines
          return e :: (← items left)
        else
          match e with
          | .grouped es => return es
          | e => return [e]

-- A statement that is on one line.
def simpleStatement (fuel : Nat) : Reader Statement := do
  let valued : Reader (Option Expr) := do
    if ← endsHere then return none else return some (← ternary false fuel)
  match ← peek with
  | some (.keyword s) =>
    match s with
    | "print" =>
      skip
      printing fuel false
    | "printf" =>
      skip
      printing fuel true
    | "break" =>
      skip
      return .leave
    | "continue" =>
      skip
      return .goOn
    | "next" =>
      skip
      return .nextRecord
    | "nextfile" =>
      skip
      return .nextFile
    | "exit" =>
      skip
      return .exit (← valued)
    | "return" =>
      skip
      return .return (← valued)
    | "delete" =>
      skip
      let n ← aName
      if ← acceptSign "[" then return .delete n (some (← expressions fuel "]"))
      else return .delete n none
    | _ => return .expr (← ternary false fuel)
  | _ => return .expr (← ternary false fuel)

mutual

def statement : (fuel : Nat) → Reader Statement
  | 0 => wrong
  | fuel + 1 => do
    match ← peek with
    | some (.sign "\x7b") => block fuel
    | some (.sign ";") =>
      skip
      return .block []
    | some (.keyword "if") =>
      skip
      sign "("
      let test ← ternary false fuel
      sign ")"
      skipLines
      let success ← statement fuel
      let rest ← get
      skipEnds
      if ← accept (.keyword "else") then
        skipLines
        return .branch test success (some (← statement fuel))
      else
        set rest
        return .branch test success none
    | some (.keyword "while") =>
      skip
      sign "("
      let test ← ternary false fuel
      sign ")"
      if ← acceptSign ";" then return .loop test (.block []) (.block [])
      skipLines
      return .loop test (← statement fuel) (.block [])
    | some (.keyword "do") =>
      skip
      skipLines
      let body ← statement fuel
      skipEnds
      expect (.keyword "while")
      sign "("
      let test ← ternary false fuel
      sign ")"
      endStatement
      return .loopFirst body test
    | some (.keyword "for") =>
      skip
      sign "("
      match ← get with
      | .name n :: .keyword "in" :: .name array :: .sign ")" :: rest =>
        set rest
        skipLines
        return .each n array (← statement fuel)
      | _ =>
        let first ← part fuel ";"
        skipLines
        let test ←
          if ← acceptSign ";" then pure (.number 1.0)
          else
            let e ← ternary false fuel
            sign ";"
            pure e
        skipLines
        let step ← part fuel ")"
        if ← acceptSign ";" then return .block [first, .loop test (.block []) step]
        skipLines
        return .block [first, .loop test (← statement fuel) step]
    | _ =>
      let s ← simpleStatement fuel
      endStatement
      return s

-- A part of the head of a loop, which may be left out.
def part : (fuel : Nat) → (stop : String) → Reader Statement
  | 0, _ => wrong
  | fuel + 1, stop => do
    if ← acceptSign stop then return .block []
    else
      let s ← simpleStatement fuel
      sign stop
      return s

def block : (fuel : Nat) → Reader Statement
  | 0 => wrong
  | fuel + 1 => do
    sign "\x7b"
    return .block (← statements fuel)

-- Statements up to the brace that ends them.
def statements : (fuel : Nat) → Reader (List Statement)
  | 0 => wrong
  | fuel + 1 => do
    skipEnds
    if ← acceptSign "\x7d" then return []
    else
      let s ← statement fuel
      return s :: (← statements fuel)

end

-- The names of parameters up to a bracket.
def parameters : (fuel : Nat) → Reader (List String)
  | 0 => wrong
  | fuel + 1 => do
    if ← acceptSign ")" then return []
    else
      let n ← aName
      skipLines
      if ← acceptSign "," then
        skipLines
        return n :: (← parameters fuel)
      else
        sign ")"
        return [n]

-- Rules and functions to the end of the program.
def program : (fuel : Nat) → Program → Reader Program
  | 0, _ => wrong
  | fuel + 1, p => do
    skipEnds
    let rule (trigger : Trigger) (body : Option Statement) : Program :=
      { p with rules := p.rules ++ [⟨trigger, body⟩] }
    match ← peek with
    | none => return p
    | some (.keyword "BEGIN") =>
      skip
      program fuel (rule .start (some (← block fuel)))
    | some (.keyword "END") =>
      skip
      program fuel (rule .finish (some (← block fuel)))
    | some (.keyword "function") | some (.keyword "func") =>
      skip
      let n ← aName
      sign "("
      let names ← parameters fuel
      skipLines
      let body ← block fuel
      program fuel { p with functions := p.functions ++ [(n, ⟨names, body⟩)] }
    | some (.sign "\x7b") => program fuel (rule .always (some (← block fuel)))
    | _ =>
      let first ← ternary false fuel
      let trigger ←
        if ← acceptSign "," then
          skipLines
          pure (Trigger.between first (← ternary false fuel))
        else pure (.when first)
      if ← isNext (.sign "\x7b") then program fuel (rule trigger (some (← block fuel)))
      else
        if !(← endsHere) then wrong
        program fuel (rule trigger none)

-- The program that a text is, or what is wrong with it.
def Program.parse (text : String) : Except String Program := do
  let cs := text.toList
  match Token.ofText? (cs.length + 1) none cs with
  | none => throw "syntax error"
  | some tokens =>
    let (p, _) ← (program (depthPerToken * (tokens.length + 2)) {}).run tokens
    return p

end Rulebook.Script.Scan
