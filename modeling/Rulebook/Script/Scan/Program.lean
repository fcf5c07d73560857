import Rulebook.Script.Regex

namespace Rulebook.Script.Scan

-- Programs for records: rules that tell what is done with the records that a pattern fits.

inductive Operator
  | add
  | subtract
  | multiply
  | divide
  | remainder
  | power
  deriving DecidableEq

inductive Comparison
  | less
  | atMost
  | same
  | different
  | more
  | atLeast
  deriving DecidableEq

-- Where lines are read from that are asked for.
inductive LineSource
  | input
  | file
  | command
  deriving DecidableEq

inductive Expr
  | number (x : Float)
  | text (s : String)
  -- by itself, whether it fits the record
  | regex (r : Regex)
  | name (n : String)
  | item (array : String) (subscripts : List Expr)
  | field (index : Expr)
  | assign (target : Expr) (operator : Option Operator) (value : Expr)
  -- one more or less, told before or after that
  | step (target : Expr) (up before : Bool)
  | negated (e : Expr)
  | signed (minus : Bool) (e : Expr)
  | arithmetic (operator : Operator) (first second : Expr)
  | joined (first second : Expr)
  | compared (c : Comparison) (first second : Expr)
  | fits (subject pattern : Expr) (there : Bool)
  | both (first second : Expr)
  | either (first second : Expr)
  | choice (test success failure : Expr)
  | member (subscripts : List Expr) (array : String)
  | call (function : String) (args : List Expr)
  | builtin (name : String) (args : List Expr)
  | grouped (es : List Expr)
  | readLine (source : LineSource) (from? : Expr) (target : Option Expr)
  deriving Inhabited

-- Whether something may be given a value.
def Expr.isTarget : Expr → Bool
  | .name _ | .item _ _ | .field _ => true
  | _ => false

-- Where texts are written.
inductive Sink
  | file
  | append
  | command
  deriving DecidableEq

inductive Statement
  | expr (e : Expr)
  | print (formatted : Bool) (es : List Expr) (target : Option (Sink × Expr))
  | block (statements : List Statement)
  | branch (test : Expr) (success : Statement) (failure : Option Statement)
  -- what is done between the rounds comes last
  | loop (test : Expr) (body step : Statement)
  | loopFirst (body : Statement) (test : Expr)
  | each (name array : String) (body : Statement)
  | leave
  | goOn
  | nextRecord
  | nextFile
  | exit (status : Option Expr)
  | return (value : Option Expr)
  | delete (array : String) (subscripts : Option (List Expr))
  deriving Inhabited

-- When a rule comes into play.
inductive Trigger
  | start
  | finish
  | always
  | when (test : Expr)
  -- from one record to another
  | between (first last : Expr)

-- A rule without a body prints the record.
structure Rule where
  trigger : Trigger
  body : Option Statement

structure Function where
  parameters : List String
  body : Statement

structure Program where
  rules : List Rule := []
  functions : List (String × Function) := []

end Rulebook.Script.Scan
