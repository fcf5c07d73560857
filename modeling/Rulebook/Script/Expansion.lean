import Rulebook.Script.Arithmetic
import Rulebook.Script.Fields
import Rulebook.Script.Reader
import Rulebook.Script.Shell

namespace Rulebook.Script

-- Replacing the parts of words by their values.

-- The letters of the options that are set.
def optionLetters (s : Shell) : String :=
  String.ofList ("ubaCEVvxsnmiIfe".toList.filter (· ∈ s.options))

-- The value of a parameter, unless there is none. The arguments have blanks between them.
def parameter? (s : Shell) (name : String) : Option String :=
  match name with
  | "?" => some (toString s.status)
  | "#" => some (toString s.arguments.length)
  | "$" => some (toString s.scriptPid)
  | "!" => s.lastJob.map toString
  | "-" => some (optionLetters s)
  | "@" | "*" => some (" ".intercalate s.arguments)
  | _ =>
    match natural? name with
    | some 0 => some s.name
    | some n => s.arguments[n - 1]?
    | none => s.value? name

-- What stands between the arguments where they are one text.
def joint (s : Shell) : String :=
  match s.separators with
  | c :: _ => String.singleton c
  | [] => ""

-- The cells of a value. In a word that is split, arguments are fields of their own.
def valueCells (s : Shell) (name value : String) (quoted splits : Bool) : List Cell :=
  if name = "@" && quoted && splits then
    [Cell.cut].intercalate (s.arguments.map fun a => .mark :: Cell.ofText true false a)
  else if (name = "@" || name = "*") && !quoted && splits then
    [Cell.cut].intercalate (s.arguments.map (Cell.ofText false true))
  else if name = "@" || name = "*" then
    Cell.ofText quoted (splits && !quoted) ((joint s).intercalate s.arguments)
  else Cell.ofText quoted (splits && !quoted) value

-- Give a variable a value, unless it is fixed or its name is not one.
def assignValue (name value : String) : Work Unit := do
  let s ← get
  if !isName name then failWith (name ++ ": bad variable name")
  else if (s.known? name).any (·.fixed) then failWith (name ++ ": is read only")
  else set (s.assign name value)

-- The value of a variable in a sum. A variable without a value counts as zero, and so does one that
-- holds white space.
def numberOf (s : Shell) (name : String) : Except Sum.Fault Int :=
  let value := (parameter? s name).getD ""
  if value.toList.all isSpace then .ok 0
  else
    match integer? 0 value with
    | some n => .ok n
    | none => .error (.notNumber value)

def sum (expression : String) : Work String := do
  let s ← get
  match Sum.evaluate (numberOf s) expression with
  | .error .overflow =>
    setFlow (.killed 8)
    return ""
  | .error e =>
    failWith (e.message expression)
    return ""
  | .ok (n, assigned) =>
    assigned.forM fun (name, n) => do
      if ← isOn then assignValue name (toString n)
    return toString n

-- The home of a user, or of this one.
def home? (s : Shell) (user : String) : Option String :=
  if user = "" then s.value? "HOME"
  else
    let known := (linesOf (s.machine.content "/etc/passwd")).map fun l => l.splitOn ":"
    (known.find? fun fields => fields.head? = some user).bind (·[5]?)

-- A tilde in front of a text, up to the character that ends its name.
def tildeFront (s : Shell) (more : Bool) (stops : List Char) (value : String) : Word :=
  match value.toList with
  | '~' :: r =>
    let (user, rest) := r.span (· ∉ stops)
    if rest.isEmpty && more then [.text value false]
    else
      match home? s (String.ofList user) with
      | some home => [.text home true, .text (String.ofList rest) false]
      | none => [.text value false]
  | _ => [.text value false]

-- The cells of a text at the front of a word.
def frontCells (s : Shell) (more splits : Bool) (value : String) : List Cell :=
  (tildeFront s more ['/'] value).flatMap fun
    | .text value quoted => Cell.ofText quoted (splits && !quoted) value
    | _ => []

-- The value of an assignment, where tildes may follow colons.
def withHomes (s : Shell) : Word → Word
  | .text value false :: w =>
    let parts := (value.toList.splitOn ':').map String.ofList
    let last := parts.length - 1
    let replaced := parts.zipIdx.map fun (part, i) =>
      tildeFront s (i = last && !w.isEmpty) ['/'] part
    [Piece.text ":" false].intercalate replaced ++ w
  | w => w

-- What a missing parameter is complained about with.
def missing (name : String) (emptyIsMissing : Bool) (message : Option String) : Work Unit :=
  failWith <| name ++ ": " ++
    match message with
    | some text => text
    | none => "parameter not set" ++ if emptyIsMissing then " or null" else ""

-- The trailing line ends of an output do not count, and no zeros are kept.
def outputText (s : String) : String :=
  String.ofList ((s.toList.filter (· ≠ '\x00')).reverse.dropWhile (· = '\n')).reverse

-- What is done for a part of a word that is what commands write.
abbrev RunOutput := Option Command → Work String

mutual

-- The cells of a part of a word. In a word that is split, values separate fields, and inside
-- another part so do texts that are not quoted. A tilde may stand at the front of a word.
def Piece.cells (run : RunOutput) (splits inner : Bool) : Piece → Work (List Cell)
  | .text value quoted =>
    return if quoted && value.isEmpty then [.mark]
      else Cell.ofText quoted (splits && inner && !quoted) value
  | .output command quoted => do
    return Cell.ofText quoted (splits && !quoted) (outputText (← run command))
  | .arithmetic expression quoted => do
    let cells ← Piece.wordCells run false false false expression
    if ← isOn then
      return Cell.ofText quoted (splits && !quoted) (← sum (Cell.text cells))
    else return []
  | .parameter name change emptyIsMissing word quoted => do
    let s ← get
    let value? := parameter? s name
    let there := value?.any fun v => !(emptyIsMissing && v.isEmpty)
    let same := valueCells s name (value?.getD "") quoted splits
    let strict := value?.isNone && s.option 'u' && name ≠ "@" && name ≠ "*"
    match change with
    | .unknown =>
      failWith "Bad substitution"
      return []
    | .otherwise =>
      if there then return same
      else Piece.wordCells run splits true true word
    | .instead =>
      if there then Piece.wordCells run splits true true word else return []
    | .assign =>
      if there then return same
      else
        let cells ← Piece.wordCells run false false true word
        if ← isOn then
          let value := Cell.text cells
          assignValue name value
          return Cell.ofText quoted (splits && !quoted) value
        else return []
    | .complain =>
      if there then return same
      else
        let cells ← Piece.wordCells run false false true word
        if ← isOn then
          missing name emptyIsMissing (if word.isEmpty then none else some (Cell.text cells))
        return []
    | .same =>
      if strict then
        missing name false none
        return []
      else return same
    | .length =>
      if strict then
        missing name false none
        return []
      else
        return Cell.ofText quoted (splits && !quoted) (toString (value?.getD "").length)
    | .trim atEnd longest =>
      if strict then
        missing name false none
        return []
      else
        let cells ← Piece.wordCells run false false true word
        let trimmed (v : String) : String :=
          String.ofList ((Cell.pattern cells).trim atEnd longest v.toList)
        if splits && (name = "@" || (name = "*" && !quoted)) then
          let args := (Cell.pattern cells).trimEach atEnd longest s.arguments
          return valueCells { s with arguments := args } name "" quoted splits
        else
          let value := if name = "*" then (joint s).intercalate s.arguments else value?.getD ""
          return Cell.ofText quoted (splits && !quoted) (trimmed value)

def Piece.wordCells (run : RunOutput) (splits inner front : Bool) : List Piece → Work (List Cell)
  | [] => return []
  | p :: w => do
    let first ←
      match front, p with
      | true, .text value false =>
        pure (frontCells (← get) (!w.isEmpty) (splits && inner) value)
      | _, p => Piece.cells run splits inner p
    if ← isOn then return first ++ (← Piece.wordCells run splits inner false w)
    else return first

end

-- A word that is one text.
def wordText (run : RunOutput) (w : Word) : Work String := do
  return Cell.text (← Piece.wordCells run false false true w)

-- The value of an assignment.
def assignedText (run : RunOutput) (w : Word) : Work String := do
  return Cell.text (← Piece.wordCells run false false false (withHomes (← get) w))

def wordPattern (run : RunOutput) (w : Word) : Work Pattern := do
  return Cell.pattern (← Piece.wordCells run false false true w)

-- The names in a folder that fit a segment of a pattern. Those that start with a dot must be met by
-- one.
def fittingNames (m : Machine) (folder written : String) (segment : List Cell) : List String :=
  if Cell.isPattern segment then
    let p := Cell.pattern segment
    let names := m.children (Machine.resolve folder written)
    (if p.head? = some (.char '.') then "." :: ".." :: names
      else names.filter (!·.startsWith ".")).filter fun n => p.fits n.toList
  else [Cell.text segment]

-- Whether a path leads to something, or to a folder.
def leadsSomewhere (m : Machine) (folder path : String) (toFolder : Bool) : Bool :=
  match m.find folder path with
  | .ok (_, some e) => !toFolder || e = .folder
  | _ => false

-- The paths that fit the segments of a pattern, below a path that is written in some way.
def matchingPaths (m : Machine) (folder : String) : (written : String) → List (List Cell) →
    List String
  | _, [] => []
  | written, [last] =>
    (fittingNames m folder written last).filter fun n =>
      Cell.isPattern last || leadsSomewhere m folder (written ++ n) false
  | written, segment :: rest =>
    (fittingNames m folder written segment).flatMap fun n =>
      let here := written ++ n ++ "/"
      if leadsSomewhere m folder here true then
        (matchingPaths m folder here rest).map ((n ++ "/") ++ ·)
      else []

-- The texts of a field: paths that fit it, or itself if there are none.
def fieldTexts (s : Shell) (field : List Cell) : List String :=
  if s.option 'f' || !Cell.isPattern field then [Cell.text field]
  else
    match matchingPaths s.machine s.folder "" (Cell.segments field) with
    | [] => [Cell.text field]
    | paths => paths

-- The texts that a word stands for.
def wordFields (run : RunOutput) (w : Word) : Work (List String) := do
  let cells ← Piece.wordCells run true false true w
  let s ← get
  return (Cell.fields s.separators cells).flatMap (fieldTexts s)

end Rulebook.Script
