import Rulebook.Script.Command
import Rulebook.Script.Octets

namespace Rulebook.Script

-- Reading the text of scripts.

-- The end of a text inside the script that follows the line, and how it is read.
structure HereMark where
  number : Nat
  mark : String
  -- nothing in it is replaced
  verbatim : Bool
  -- tabs in front of its lines are left out
  stripped : Bool

structure SyntaxError where
  line : Nat
  message : String

inductive Token
  -- the text of a word without quotes may be a keyword
  | word (pieces : Word) (plain : Option String)
  | keyword (name : String)
  -- an operator, or the end of a line
  | operator (text : String)
  | redirection (stream : Nat) (arrow : String)
  | finish
  deriving Inhabited

structure Reading where
  rest : List Char
  line : Nat := 1
  -- a token that was read ahead
  held : Option Token := none
  -- texts that are to come, and those that are there
  marks : List HereMark := []
  texts : List HereText := []
  number : Nat := 0
  aliases : List (String × String) := []
  -- aliases inside their own text, with how much of the script is behind it
  insideAliases : List (String × Nat) := []
  -- after the text of an alias that ends in a blank, the next word may be an alias as well
  opensAlias : Option Nat := none
  -- whether the input may hold more of the script
  continues : Bool := false

def Reading.ofText (s : String) : Reading :=
  { rest := s.toList }

abbrev Reader := StateT Reading (Except SyntaxError)

namespace Reader

def fail {α : Type} (message : String) : Reader α := do
  throw ⟨(← get).line, message⟩

-- Line ends after a backslash are not there.
def joined : (line : Nat) → List Char → Nat × List Char
  | line, '\\' :: '\n' :: r => joined (line + 1) r
  | line, r => (line, r)

-- The next character, which stays.
def peek : Reader (Option Char) := do
  let s ← get
  let (line, rest) := joined s.line s.rest
  set { s with line := line, rest := rest }
  return rest.head?

-- Leave a character out.
def skip : Reader Unit :=
  modify fun s => { s with
    rest := s.rest.tail, line := if s.rest.head? = some '\n' then s.line + 1 else s.line }

-- Take the next character, where backslashes count as they are.
def takeRaw : Reader (Option Char) := do
  let c := (← get).rest.head?
  skip
  return c

-- Take the next character if it is this one.
def accept (c : Char) : Reader Bool := do
  if (← peek) = some c then
    skip
    return true
  else return false

def takeWhile (p : Char → Bool) : Reader String := do
  let (cs, line, rest) := span (← get).line (← get).rest
  modify fun s => { s with rest := rest, line := line }
  return String.ofList cs
where
  span : Nat → List Char → List Char × Nat × List Char
    | line, '\\' :: '\n' :: r => span (line + 1) r
    | line, c :: r =>
      if p c then
        let (cs, line, r) := span line r
        (c :: cs, line, r)
      else ([], line, c :: r)
    | line, [] => ([], line, [])

-- Take characters as they are up to one that ends them, which is left out.
def takeUntil? (stop : Char) : Reader (Option String) := do
  let s ← get
  match s.rest.span (· ≠ stop) with
  | (cs, _ :: r) =>
    set { s with rest := r, line := s.line + cs.count '\n' + if stop = '\n' then 1 else 0 }
    return some (String.ofList cs)
  | (cs, []) =>
    set { s with rest := [], line := s.line + cs.count '\n' }
    return none

end Reader

-- Neighbouring texts of one kind are one piece.
def joinText (value : String) (quoted : Bool) : Word → Word
  | .text s q :: w => if q = quoted then .text (value ++ s) q :: w
    else .text value quoted :: .text s q :: w
  | w => .text value quoted :: w

-- The text of a word that has no quotes and nothing to be replaced.
def plainText? : Word → Option String
  | [] => some ""
  | .text s false :: w => (plainText? w).map (s ++ ·)
  | _ => none

-- The text of a word without its quotes.
def bareText : Word → String
  | .text s _ :: w => s ++ bareText w
  | _ :: w => bareText w
  | [] => ""

-- A word that gives a variable its value.
def assignment? : Word → Option (String × Word)
  | .text s false :: w =>
    match s.toList.span isNameChar with
    | (c :: name, '=' :: value) =>
      if isNameStart c then
        let w := if value.isEmpty then w else .text (String.ofList value) false :: w
        some (String.ofList (c :: name), w)
      else none
    | _ => none
  | _ => none

def specialParameters : List Char :=
  ['@', '*', '#', '?', '-', '$', '!']

-- The start of a parameter in braces after its name: what is to become of its value.
def changeSigns : List (Char × Change) :=
  [('-', .otherwise), ('+', .instead), ('?', .complain), ('=', .assign)]

-- The commands that no function can replace.
def reservedNames : List String :=
  [".", ":", "break", "continue", "eval", "exec", "exit", "export", "local", "readonly", "return",
   "set", "shift", "times", "trap", "unset"]

def keywords : List String :=
  ["!", "case", "do", "done", "elif", "else", "esac", "fi", "for", "if", "in", "then", "until",
   "while", "\x7b", "\x7d"]

-- The keywords and operators that end a list of commands.
def endsList : Token → Bool
  | .finish => true
  | .operator s => s ∈ [")", ";;"]
  | .keyword s => s ∈ ["do", "done", "elif", "else", "esac", "fi", "then", "\x7d"]
  | _ => false

-- How a token is called in complaints.
def Token.label : Token → String
  | .word _ _ => "word"
  | .keyword s => "\"" ++ s ++ "\""
  | .operator "\n" => "newline"
  | .operator s => "\"" ++ s ++ "\""
  | .redirection _ _ => "redirection"
  | .finish => "end of file"

end Rulebook.Script
