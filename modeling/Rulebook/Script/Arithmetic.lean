import Rulebook.Script.Integer

namespace Rulebook.Script

-- Sums in scripts: whole numbers of 64 bits, names, brackets and operators.

namespace Sum

-- Why a sum has no value.
inductive Fault
  | malformed (reason : String)
  -- a value that is no number
  | notNumber (value : String)
  -- a quotient that is too large, which the processor does not bear
  | overflow
  deriving DecidableEq

def Fault.message (expression : String) : Fault → String
  | malformed reason => "arithmetic expression: " ++ reason ++ ": \"" ++ expression ++ "\""
  | notNumber value => "Illegal number: " ++ value
  | overflow => "Floating point exception"

inductive Token
  | number (n : Int)
  | name (s : String)
  | operator (s : String)
  | other
  deriving DecidableEq

-- Longer operators come first.
def operators : List String :=
  ["<<=", ">>=", "<<", ">>", "<=", ">=", "==", "!=", "&&", "||", "+=", "-=", "*=", "/=", "%=",
   "&=", "|=", "^=", "+", "-", "*", "/", "%", "<", ">", "=", "!", "~", "&", "|", "^", "?", ":",
   "(", ")"]

def takeOperator? (cs : List Char) : Option (String × List Char) :=
  (operators.find? (·.toList.isPrefixOf cs)).map fun s => (s, cs.drop s.length)

def tokens : (fuel : Nat) → List Char → List Token
  | 0, _ => []
  | _ + 1, [] => []
  | fuel + 1, c :: r =>
    if c = ' ' || c = '\t' || c = '\n' then tokens fuel r
    else if c.isDigit then
      match leadingInteger? 0 (c :: r) with
      | some (n, r) => .number (clamp n) :: tokens fuel r
      | none => [.other]
    else if isNameStart c then
      let (name, r) := (c :: r).span isNameChar
      .name (String.ofList name) :: tokens fuel r
    else
      match takeOperator? (c :: r) with
      | some (s, r) => .operator s :: tokens fuel r
      | none => [.other]

def truth (b : Bool) : Int :=
  if b then 1 else 0

-- The operators between two numbers, by how tightly they bind. The last ones bind tightest.
def levels : List (List String) :=
  [["|"], ["^"], ["&"], ["==", "!="], ["<", "<=", ">", ">="], ["<<", ">>"], ["+", "-"],
   ["*", "/", "%"]]

-- Numbers are moved by as many bits as the last six bits of the second one say.
def shift (left : Bool) (a b : Int) : Int :=
  let n := (b % 64).toNat
  if left then wrap (a * Int.ofNat (Nat.pow 2 n)) else Int.shiftRight a n

def bitwise (op : Nat → Nat → Nat) (a b : Int) : Int :=
  wrap (op (unsigned a) (unsigned b))

-- Division goes towards zero, and not by zero.
def divide (op : Int → Int → Int) (a b : Int) : Except Fault Int :=
  if b = 0 then .error (.malformed "division by zero")
  else if b = -1 && wrap (-a) ≠ -a then .error .overflow
  else .ok (op a b)

def operate (op : String) (a b : Int) : Except Fault Int :=
  match op with
  | "|" => .ok (bitwise (· ||| ·) a b)
  | "^" => .ok (bitwise (· ^^^ ·) a b)
  | "&" => .ok (bitwise (· &&& ·) a b)
  | "==" => .ok (truth (a = b))
  | "!=" => .ok (truth (a ≠ b))
  | "<" => .ok (truth (a < b))
  | "<=" => .ok (truth (a ≤ b))
  | ">" => .ok (truth (b < a))
  | ">=" => .ok (truth (b ≤ a))
  | "<<" => .ok (shift true a b)
  | ">>" => .ok (shift false a b)
  | "+" => .ok (wrap (a + b))
  | "-" => .ok (wrap (a - b))
  | "*" => .ok (wrap (a * b))
  | "/" => divide Int.tdiv a b
  | "%" => divide Int.tmod a b
  | _ => .error (.malformed "expecting primary")

-- What is left of an expression, and the variables that it has given values so far, the last one
-- first.
structure Progress where
  rest : List Token
  assigned : List (String × Int) := []

abbrev Reader := StateT Progress (Except Fault)

def peek : Reader (Option Token) :=
  return (← get).rest.head?

def skip : Reader Unit :=
  modify fun s => { s with rest := s.rest.tail }

def accept (op : String) : Reader Bool := do
  if (← peek) = some (.operator op) then
    skip
    return true
  else return false

-- The value of a variable, which may have got it just now.
def valueOf (value : String → Except Fault Int) (name : String) : Reader Int := do
  match (← get).assigned.lookup name with
  | some n => return n
  | none => value name

-- The operator of an assignment behind a name: a single sign, or another operator before it.
def assigning? (s : String) : Option String :=
  if s = "=" then some ""
  else if s ∈ ["<<=", ">>=", "+=", "-=", "*=", "/=", "%=", "&=", "|=", "^="] then
    some (String.ofList s.toList.dropLast)
  else none

-- Each of these takes an expression from the front. What is not used is only read. Values of names
-- come from outside. Fuel bounds the number of nested calls.
mutual

def assignment (value : String → Except Fault Int) : (fuel : Nat) → (used : Bool) → Reader Int
  | 0, _ => throw (.malformed "too long")
  | fuel + 1, used => do
    match (← get).rest with
    | .name x :: .operator s :: rest =>
      match assigning? s with
      | some op =>
        modify fun p => { p with rest := rest }
        let n ← assignment value fuel used
        if used then
          let n ← if op = "" then pure n else operate op (← valueOf value x) n
          modify fun p => { p with assigned := (x, n) :: p.assigned }
          return n
        else return n
      | none => conditional value fuel used
    | _ => conditional value fuel used

def conditional (value : String → Except Fault Int) : (fuel : Nat) → (used : Bool) → Reader Int
  | 0, _ => throw (.malformed "too long")
  | fuel + 1, used => do
    let a ← disjunction value fuel used
    if ← accept "?" then
      let b ← assignment value fuel (used && a ≠ 0)
      if !(← accept ":") then throw (.malformed "expecting ':'")
      let c ← conditional value fuel (used && a = 0)
      return if a ≠ 0 then b else c
    else return a

def disjunction (value : String → Except Fault Int) : (fuel : Nat) → (used : Bool) → Reader Int
  | 0, _ => throw (.malformed "too long")
  | fuel + 1, used => do
    let a ← conjunction value fuel used
    if ← accept "||" then
      let b ← disjunction value fuel (used && a = 0)
      return truth (a ≠ 0 || b ≠ 0)
    else return a

def conjunction (value : String → Except Fault Int) : (fuel : Nat) → (used : Bool) → Reader Int
  | 0, _ => throw (.malformed "too long")
  | fuel + 1, used => do
    let a ← level value fuel levels used
    if ← accept "&&" then
      let b ← conjunction value fuel (used && a ≠ 0)
      return truth (a ≠ 0 && b ≠ 0)
    else return a

def level (value : String → Except Fault Int) :
    (fuel : Nat) → List (List String) → (used : Bool) → Reader Int
  | 0, _, _ => throw (.malformed "too long")
  | fuel + 1, [], used => operand value fuel used
  | fuel + 1, ops :: levels, used => do
    operations value fuel ops levels (← level value fuel levels used) used

-- Operators of one level, from left to right.
def operations (value : String → Except Fault Int) :
    (fuel : Nat) → List String → List (List String) → Int → (used : Bool) → Reader Int
  | 0, _, _, _, _ => throw (.malformed "too long")
  | fuel + 1, ops, levels, a, used => do
    match ← peek with
    | some (.operator op) =>
      if op ∈ ops then
        skip
        let b ← level value fuel levels used
        let a ← if used then operate op a b else pure b
        operations value fuel ops levels a used
      else return a
    | _ => return a

def operand (value : String → Except Fault Int) : (fuel : Nat) → (used : Bool) → Reader Int
  | 0, _ => throw (.malformed "too long")
  | fuel + 1, used => do
    match ← peek with
    | some (.operator "(") =>
      skip
      let a ← assignment value fuel used
      if !(← accept ")") then throw (.malformed "expecting ')'")
      return a
    | some (.number n) =>
      skip
      return n
    | some (.name x) =>
      skip
      if used then valueOf value x else return 0
    | some (.operator "+") =>
      skip
      operand value fuel used
    | some (.operator "-") =>
      skip
      return wrap (-(← operand value fuel used))
    | some (.operator "!") =>
      skip
      return truth ((← operand value fuel used) = 0)
    | some (.operator "~") =>
      skip
      return -(← operand value fuel used) - 1
    | _ => throw (.malformed "expecting primary")

end

-- The value of an expression, and the variables that get values, in order.
def evaluate (value : String → Except Fault Int) (expression : String) :
    Except Fault (Int × List (String × Int)) := do
  let cs := expression.toList
  let ts := tokens cs.length cs
  let (n, p) ← (assignment value (16 * ts.length + 16) true).run { rest := ts }
  if p.rest.isEmpty then return (n, p.assigned.reverse) else throw (.malformed "expecting EOF")

end Sum

end Rulebook.Script
