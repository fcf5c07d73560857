import Rulebook.Script.Integer

namespace Rulebook.Script

namespace Condition

-- Conditions on texts, numbers and files.

inductive Operator
  | unary (name : String)
  | binary (name : String)
  | negation
  | conjunction
  | disjunction
  | opening
  | closing
  deriving DecidableEq

def unaryNames : List String :=
  ["-r", "-w", "-x", "-e", "-f", "-d", "-c", "-b", "-p", "-u", "-g", "-k", "-s", "-t", "-z", "-n",
   "-h", "-O", "-G", "-L", "-S"]

def binaryNames : List String :=
  ["=", "!=", "<", ">", "-eq", "-ne", "-ge", "-gt", "-le", "-lt", "-nt", "-ot", "-ef"]

def operator? (s : String) : Option Operator :=
  if s ∈ unaryNames then some (.unary s)
  else if s ∈ binaryNames then some (.binary s)
  else
    [("!", .negation), ("-a", .conjunction), ("-o", .disjunction), ("(", .opening),
     (")", .closing)].lookup s

def isBinary (s : String) : Bool :=
  s ∈ binaryNames

-- What stands in front of the words that are left.
inductive Token
  | finish
  | operand
  | operator (op : Operator)
  deriving DecidableEq

-- An operator with nothing to work on is an operand.
def token : List String → Token
  | [] => .finish
  | s :: rest =>
    match operator? s with
    | none => .operand
    | some (.unary name) =>
      let isOperand := match rest with
        | [] => true
        | [_] => false
        | t :: _ => isBinary t
      if isOperand then .operand else .operator (.unary name)
    | some .opening => if rest.isEmpty then .operand else .operator .opening
    | some op => .operator op

-- What is known of files.
structure Facts where
  file : (test path : String) → Bool
  -- whether one file is newer or older than another one, or the same
  files : (test first second : String) → Bool

abbrev Reader := StateT (List String) (Except String)

def number (s : String) : Reader Int :=
  match integer? 10 s with
  | some n => return n
  | none => throw ("Illegal number: " ++ s)

def compareNumbers (op : String) (a b : Int) : Bool :=
  match op with
  | "-eq" => a = b
  | "-ne" => a ≠ b
  | "-lt" => a < b
  | "-le" => a ≤ b
  | "-gt" => b < a
  | _ => b ≤ a

def compare (facts : Facts) (op a b : String) : Reader Bool := do
  match op with
  | "=" => return a = b
  | "!=" => return a ≠ b
  | "<" => return a < b
  | ">" => return b < a
  | "-nt" | "-ot" | "-ef" => return facts.files op a b
  | _ => return compareNumbers op (← number a) (← number b)

def missing (op : String) : String :=
  op ++ ": argument expected"

-- Go on with the next word.
def advance : Reader Unit :=
  modify List.tail

-- The token behind the word in front.
def following : Reader Token :=
  return token (← get).tail

-- Each of these starts at the word in front, which was taken for a token, and ends at its own last
-- word. Fuel bounds the number of nested calls.
mutual

def disjunction (facts : Facts) : (fuel : Nat) → Token → Reader Bool
  | 0, _ => throw "too long"
  | fuel + 1, t => do
    let a ← conjunction facts fuel t
    if (← following) = .operator .disjunction then
      modify (·.drop 2)
      let b ← disjunction facts fuel (token (← get))
      return a || b
    else return a

def conjunction (facts : Facts) : (fuel : Nat) → Token → Reader Bool
  | 0, _ => throw "too long"
  | fuel + 1, t => do
    let a ← negation facts fuel t
    if (← following) = .operator .conjunction then
      modify (·.drop 2)
      let b ← conjunction facts fuel (token (← get))
      return a && b
    else return a

def negation (facts : Facts) : (fuel : Nat) → Token → Reader Bool
  | 0, _ => throw "too long"
  | fuel + 1, t => do
    if t = .operator .negation then
      let t ← following
      if t ≠ .finish then advance
      return !(← negation facts fuel t)
    else primary facts fuel t

def primary (facts : Facts) : (fuel : Nat) → Token → Reader Bool
  | 0, _ => throw "too long"
  | fuel + 1, t => do
    match t with
    | .finish => return false
    | .operator .opening =>
      advance
      let t := token (← get)
      if t = .operator .closing then return false
      let a ← disjunction facts fuel t
      advance
      if token (← get) ≠ .operator .closing then throw "closing paren expected"
      return a
    | .operator (.unary op) =>
      advance
      match ← get with
      | [] => throw (missing op)
      | s :: _ =>
        if op = "-z" then return s.isEmpty
        else if op = "-n" then return !s.isEmpty
        else if op = "-t" then
          let _ ← number s
          return false
        else return facts.file op s
    | _ =>
      match ← get with
      | a :: op :: rest =>
        if isBinary op && token (op :: rest) = .operator (.binary op) then
          match rest with
          | b :: _ =>
            modify (·.drop 2)
            compare facts op a b
          | [] => throw (missing op)
        else return !a.isEmpty
      | [a] => return !a.isEmpty
      | [] => return false

end

-- An expression from its first token on, which must be all that there is.
def whole (facts : Facts) (words : List String) (t : Token) : Except String Bool := do
  let (a, rest) ← (disjunction facts (4 * words.length + 8) t).run words
  match rest with
  | s :: _ :: _ =>
    throw (if s.isEmpty then "unexpected operator" else s ++ ": unexpected operator")
  | _ => return a

-- Whether a condition holds. With three or four words the place of operators tells what they are.
def holds (facts : Facts) : (fuel : Nat) → List String → Except String Bool
  | 0, _ => .error "too long"
  | fuel + 1, words =>
    match words with
    | [] => .ok false
    | [a, op, b] =>
      if isBinary op then whole facts words .operand
      else if a = "(" && b = ")" then whole facts [op] (token [op])
      else if a = "!" then (holds facts fuel [op, b]).map (!·)
      else whole facts words (token words)
    | [a, b, c, d] =>
      if a = "(" && d = ")" then whole facts [b, c] (token [b, c])
      else if a = "!" then (holds facts fuel [b, c, d]).map (!·)
      else whole facts words (token words)
    | _ => whole facts words (token words)

def check (facts : Facts) (words : List String) : Except String Bool :=
  holds facts 4 words

end Condition

end Rulebook.Script
