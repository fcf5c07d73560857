namespace Rulebook.Script

-- The commands of scripts that stand in for solvers.

-- What becomes of the value of a parameter.
inductive Change
  | same
  | length
  -- a word in place of a value that is missing
  | otherwise
  -- the word becomes the value that is missing
  | assign
  -- the word says what is missing
  | complain
  -- a word in place of a value that is there
  | instead
  -- what a pattern fits is left out, at the front or at the end
  | trim (atEnd longest : Bool)
  | unknown
  deriving DecidableEq

-- How a file is opened.
inductive Opening
  | read
  | write
  -- written, but not in place of another file
  | create
  | append
  | readWrite
  deriving DecidableEq

mutual

-- A part of a word. Values of unquoted parts are split into fields.
inductive Piece
  | text (value : String) (quoted : Bool)
  -- an empty value may count as missing
  | parameter (name : String) (change : Change) (emptyIsMissing : Bool) (word : List Piece)
    (quoted : Bool)
  -- what commands write
  | output (command : Option Command) (quoted : Bool)
  | arithmetic (expression : List Piece) (quoted : Bool)

inductive Redirection
  | file (stream : Nat) (opening : Opening) (name : List Piece)
  -- the same as another stream, or closed
  | copy (stream : Nat) (source : List Piece)
  -- a text in the script, known by a number
  | here (stream : Nat) (number : Nat)

-- Lines are told in complaints.
inductive Command
  | simple (line : Nat) (assignments : List (String × List Piece)) (words : List (List Piece))
    (redirections : List Redirection)
  | pipe (commands : List Command)
  | sequence (first second : Command)
  | onSuccess (first second : Command)
  | onFailure (first second : Command)
  | negated (command : Command)
  | background (line : Nat) (command : Command)
  | subshell (line : Nat) (command : Command) (redirections : List Redirection)
  | redirected (line : Nat) (command : Command) (redirections : List Redirection)
  | branch (test success : Command) (failure : Option Command)
  -- a loop goes on while its test succeeds, or while it fails
  | loop (whileSuccess : Bool) (test body : Command)
  -- without words, for each argument
  | each (line : Nat) (name : String) (words : Option (List (List Piece))) (body : Command)
  | choice (line : Nat) (subject : List Piece) (cases : List (List (List Piece) × Option Command))
  | function (name : String) (body : Command)

end

abbrev Word := List Piece

-- A text inside a script, given by its number.
abbrev HereText := Nat × Word

end Rulebook.Script
