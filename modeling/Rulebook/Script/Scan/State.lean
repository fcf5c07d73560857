import Rulebook.Script.Scan.Value
import Rulebook.Script.Shell

namespace Rulebook.Script.Scan

-- What a program for records knows while it runs.

inductive Binding
  | value (v : Value)
  -- elements that are kept under a number, or a name that has not been used yet
  | table (number : Nat)
  | unused
  deriving Inhabited

-- Why the next statement is not what comes next.
inductive Stop
  | leave
  | goOn
  | nextRecord
  | nextFile
  | exit
  | return (v : Value)
  | failed (message : String)
  -- a file cannot be opened
  | unopened (message : String)
  -- nobody reads what is written
  | halted
  -- no end is known
  | endless

structure State where
  -- how the program is called
  name : String := "awk"
  functions : List (String × Function) := []
  globals : List (String × Binding) := []
  locals : List (String × Binding) := []
  tables : List (Nat × Table) := []
  next : Nat := 0
  record : String := ""
  fields : List String := []
  -- what separates the fields, with the texts that tell so
  separator : (String × Bool) × Separator := ((" ", false), .blanks)
  -- what is left of the file that is being read, if there is one, and which operand comes next
  input : Option (List Char) := none
  operand : Nat := 1
  anyFile : Bool := false
  -- what is left of other files and of what commands have written
  sources : List (String × List Char) := []
  -- the files that have been opened, and the commands with what they get, the latest piece first
  files : List String := []
  commands : List (String × List String) := []
  -- what has not been written yet, the latest piece first
  output : List String := []
  outputSize : Nat := 0
  -- the rules whose records have started
  started : List Nat := []
  status : Nat := 0

abbrev Act := ExceptT Stop (StateT State Work)

def onShell {α : Type} (act : Work α) : Act α :=
  liftM (m := StateT State Work) (liftM act)

-- Names

def binding? (name : String) : Act (Option Binding) := do
  let s ← get
  return (s.locals.lookup name).orElse fun _ => s.globals.lookup name

def bind (name : String) (b : Binding) : Act Unit :=
  modify fun s =>
    if (s.locals.lookup name).isSome then { s with locals := Machine.put name b s.locals }
    else { s with globals := Machine.put name b s.globals }

def global (name : String) : Act Value := do
  match (← get).globals.lookup name with
  | some (.value v) => return v
  | _ => return .missing

def setGlobal (name : String) (v : Value) : Act Unit :=
  modify fun s => { s with globals := Machine.put name (.value v) s.globals }

-- The format of numbers that are taken for texts.
def numberFormat : Act String :=
  return (← global "CONVFMT").toText "%.6g"

def textOf (v : Value) : Act String := do
  match v with
  | .number _ => return v.toText (← numberFormat)
  | v => return v.toText "%.6g"

def globalText (name : String) : Act String := do
  textOf (← global name)

-- Elements

-- The number of the elements under a name.
def tableOf (name : String) : Act Nat := do
  match ← binding? name with
  | some (.table n) => return n
  | some (.value _) => throw (.failed ("type error: " ++ name ++ " is no array"))
  | _ =>
    let n := (← get).next
    modify fun s => { s with next := n + 1, tables := (n, []) :: s.tables }
    bind name (.table n)
    return n

def elements (n : Nat) : Act Table :=
  return ((← get).tables.lookup n).getD []

def setElements (n : Nat) (t : Table) : Act Unit :=
  modify fun s => { s with tables := Machine.put n t s.tables }

def putElement (n : Nat) (name : String) (v : Value) : Act Unit := do
  setElements n ((name, v) :: Machine.drop name (← elements n))

-- An element, which is there from now on.
def element (n : Nat) (name : String) : Act Value := do
  match (← elements n).lookup name with
  | some v => return v
  | none =>
    putElement n name .missing
    return .missing

-- Fields

def separator : Act Separator := do
  let text ← globalText "FS"
  let inParagraphs := (← globalText "RS") = ""
  let s ← get
  let (known, separator) := s.separator
  if known.1 = text && known.2 = inParagraphs then return separator
  else
    let separator := Separator.ofText inParagraphs text
    set { s with separator := ((text, inParagraphs), separator) }
    return separator

def setRecord (record : String) : Act Unit := do
  let separator ← separator
  modify fun s => { s with record := record, fields := separator.split record }

-- The record is made of its fields.
def setFields (fields : List String) : Act Unit := do
  let joint ← globalText "OFS"
  modify fun s => { s with fields := fields, record := joint.intercalate fields }

def setFieldCount (n : Nat) : Act Unit := do
  let fields := (← get).fields
  setFields (fields.take n ++ List.replicate (n - fields.length) "")

def field (i : Nat) : Act Value := do
  let s ← get
  if i = 0 then return .ofInput s.record
  else
    match s.fields[i - 1]? with
    | some f => return .ofInput f
    | none => return .missing

def setField (i : Nat) (text : String) : Act Unit := do
  if i = 0 then setRecord text
  else
    let fields := (← get).fields
    let fields := fields ++ List.replicate (i - fields.length) ""
    setFields (fields.set (i - 1) text)

-- The place of a field.
def fieldIndex (v : Value) : Act Nat := do
  let n := truncated v.toNumber
  if n < 0 then throw (.failed ("negative field index $" ++ toString n))
  else return n.toNat

-- Names again, where some of them stand for what is known otherwise

def named (name : String) : Act Value := do
  match ← binding? name with
  | some (.value v) => return v
  | some (.table n) =>
    if (← elements n).isEmpty then return .missing
    else throw (.failed ("type error: " ++ name ++ " is an array"))
  | some .unused => return .missing
  | none => if name = "NF" then return .ofNat (← get).fields.length else return .missing

def setNamed (name : String) (v : Value) : Act Unit := do
  if name = "NF" && ((← get).locals.lookup name).isNone then
    setFieldCount (truncated v.toNumber).toNat
  else bind name (.value v)

-- Writing

-- Everything that has been put off is written.
def flush : Act Unit := do
  let s ← get
  set { s with output := [], outputSize := 0 }
  onShell (print (String.join s.output.reverse))
  let shell ← onShell get
  if shell.refusal.isSome || !shell.isOn then throw .halted

def write (text : String) : Act Unit := do
  modify fun s => { s with
    output := text :: s.output, outputSize := s.outputSize + text.length }
  if (← get).outputSize > 4096 then flush

def writeFile (appends : Bool) (name text : String) : Act Unit := do
  if name = "-" || name = "/dev/stdout" then write text
  else
    let s ← get
    if name ∉ s.files then
      set { s with files := name :: s.files }
      match ← onShell (writeNamed name "" (if appends then .append else .write)) with
      | some e =>
        throw (.unopened ("cannot open \"" ++ name ++ "\" for output (" ++ e.text ++ ")"))
      | none => pure ()
    match ← onShell (writeNamed name text .append) with
    | some e => throw (.failed ("write failure: " ++ e.text))
    | none => return

-- Reading

-- The next operand that is not empty. Those that give a variable its value do so.
def nextOperand : (fuel : Nat) → Act (Option String)
  | 0 => return none
  | fuel + 1 => do
    let s ← get
    let count := truncated (← global "ARGC").toNumber
    if (s.operand : Int) ≥ count then return none
    else
      set { s with operand := s.operand + 1 }
      let operands ← tableOf "ARGV"
      let text ← textOf (((← elements operands).lookup (toString s.operand)).getD .missing)
      match text.toList.span isNameChar with
      | (name, '=' :: value) =>
        if isName (String.ofList name) then
          let value := (Escapes.programText.replaced (String.ofList value)).1
          setNamed (String.ofList name) (.ofInput value)
          nextOperand fuel
        else return some text
      | _ => if text = "" then nextOperand fuel else return some text

-- Open the next file. Without any, the input is read.
def openNext : Act Bool := do
  let count := truncated (← global "ARGC").toNumber
  let name? ← nextOperand (count.toNat + 1)
  let s ← get
  match if name?.isNone && !s.anyFile then some "-" else name? with
  | none => return false
  | some name =>
    match ← onShell (readNamed name) with
    | .ok text =>
      modify fun s => { s with input := some text.toList, anyFile := true }
      setGlobal "FILENAME" (.text name)
      setGlobal "FNR" (.number 0.0)
      return true
    | .error e => throw (.unopened ("cannot open \"" ++ name ++ "\" (" ++ e.text ++ ")"))

-- The next record of the files.
def nextRecord : (fuel : Nat) → Act (Option String)
  | 0 => return none
  | fuel + 1 => do
    match (← get).input with
    | none => if ← openNext then nextRecord fuel else return none
    | some cs =>
      match takeRecord (← globalText "RS") cs with
      | some (record, rest) =>
        modify fun s => { s with input := some rest }
        setGlobal "NR" (.number ((← global "NR").toNumber + 1.0))
        setGlobal "FNR" (.number ((← global "FNR").toNumber + 1.0))
        return some record
      | none =>
        modify fun s => { s with input := none }
        nextRecord fuel

-- More files than operands are not read.
def readRecord : Act (Option String) := do
  let count := truncated (← global "ARGC").toNumber
  nextRecord (2 * count.toNat + 4)

-- The next record of what was opened under a name.
def readSource (name : String) : Act (Option String) := do
  match takeRecord (← globalText "RS") (((← get).sources.lookup name).getD []) with
  | some (record, rest) =>
    modify fun s => { s with sources := Machine.put name rest s.sources }
    return some record
  | none => return none

end Rulebook.Script.Scan
