import Rulebook.Script.Regex
import Rulebook.Script.Tool.Option

namespace Rulebook.Script

-- Programs that copy their input, all of it or a part.

namespace Copying

-- How lines are copied.
structure Style where
  numbers : Bool := false
  numbersText : Bool := false
  ends : Bool := false
  tabs : Bool := false
  controls : Bool := false
  squeezes : Bool := false

-- How far copying has got: the number of the last line, whether a line is going on, and how many
-- empty lines were last.
structure State where
  line : Nat := 0
  inLine : Bool := false
  empties : Nat := 0

-- A byte that may not be shown as it is.
def shown (style : Style) (c : Char) : String :=
  let control (n : Nat) : String :=
    if n < 32 then String.ofList ['^', Char.ofNat (n + 64)]
    else if n = 127 then "^?"
    else String.singleton (Char.ofNat n)
  if c = '\t' then if style.tabs then "^I" else "\t"
  else if !style.controls then String.singleton c
  else if c.toNat < 128 then control c.toNat
  else "M-" ++ control (c.toNat - 128)

-- A line with its number, if lines like it have one.
def numbered (style : Style) (empty : Bool) (s : State) : String × State :=
  if (style.numbers && !style.numbersText) || (style.numbersText && !empty) then
    (padLeft 6 (toString (s.line + 1)) ++ "\t", { s with line := s.line + 1 })
  else ("", s)

-- A part of the input, in lines with or without an end.
def copyLine (style : Style) (line : List Char) (ended : Bool) (s : State) : String × State :=
  if line.isEmpty && !ended then ("", s)
  else
    let empty := line.isEmpty && !s.inLine
    if style.squeezes && empty && s.empties > 0 then ("", s)
    else
      let (number, s) := if s.inLine then ("", s) else numbered style empty s
      let text := number ++ String.join (line.map (shown style)) ++
        if ended then (if style.ends then "$\n" else "\n") else ""
      (text, { s with inLine := !ended, empties := if empty then s.empties + 1 else 0 })

def copy (style : Style) (text : String) (s : State) : String × State :=
  let parts := text.toList.splitOn '\n'
  let last := parts.length - 1
  let (pieces, s) := parts.zipIdx.foldl
    (fun (pieces, s) (line, i) =>
      let (piece, s) := copyLine style line (i < last) s
      (piece :: pieces, s))
    (([] : List String), s)
  (String.join pieces.reverse, s)

def isPlain (style : Style) : Bool :=
  !(style.numbers || style.numbersText || style.ends || style.tabs || style.controls ||
    style.squeezes)

def forms : List OptionForm :=
  [⟨'A', "show-all", .nothing⟩, ⟨'b', "number-nonblank", .nothing⟩, ⟨'e', "", .nothing⟩,
   ⟨'E', "show-ends", .nothing⟩, ⟨'n', "number", .nothing⟩, ⟨'s', "squeeze-blank", .nothing⟩,
   ⟨'t', "", .nothing⟩, ⟨'T', "show-tabs", .nothing⟩, ⟨'u', "", .nothing⟩,
   ⟨'v', "show-nonprinting", .nothing⟩]

def styleOf (g : Given) : Style where
  numbers := g.has 'n'
  numbersText := g.has 'b'
  ends := g.has 'E' || g.has 'e' || g.has 'A'
  tabs := g.has 'T' || g.has 't' || g.has 'A'
  controls := g.has 'v' || g.has 'e' || g.has 't' || g.has 'A'
  squeezes := g.has 's'

def files (style : Style) : List String → State → (status : Nat) → Work Nat
  | [], _, status => return status
  | name :: names, s, status => do
    match ← readNamed name with
    | .error e =>
      toolComplain "cat" (ShellWord.inFront name ++ ": " ++ e.text)
      files style names s 1
    | .ok text =>
      let (text, s) := if isPlain style then (text, s) else copy style text s
      print text
      files style names s status

end Copying

def catTool (args : List String) : Work Nat :=
  withOptions "cat" Copying.forms 1 args fun g => do
    match (← get).opened 1 with
    | .ok _ =>
      Copying.files (Copying.styleOf g) (if g.operands.isEmpty then ["-"] else g.operands) {} 0
    | .error e =>
      toolComplain "cat" ("standard output: " ++ e.text)
      return 1

-- The lines of a text with their ends.
def fullLines (stop : Char) (s : String) : List String :=
  let parts := (s.toList.splitOn stop).map String.ofList
  (parts.dropLast.map (· ++ String.singleton stop)) ++
    (parts.getLast?.toList.filter (· ≠ ""))

namespace Reversal

-- The signs between the parts of a text.
inductive Separator
  | text (chars : List Char)
  | pattern (r : Regex)

-- The last separator that is wholly in the front of a text, as the place where it starts and its
-- length. It may start at so many places.
def last? (separator : Separator) (text : Array Char) (front : Nat) : Nat → Option (Nat × Nat)
  | 0 => none
  | place + 1 =>
    let length? :=
      match separator with
      | .text cs =>
        if place + cs.length ≤ front && cs.zipIdx.all fun (c, i) => text[place + i]? = some c then
          some cs.length
        else none
      | .pattern r =>
        (r.fitAt? { chars := text.extract 0 front } place).map fun s => s.place - place
    match length? with
    | some n => some (place, n)
    | none => last? separator text front place

-- The parts of a text from the last one to the first one. Separators end parts or start them. What
-- is behind the separator that was found last ends at a place.
def parts (separator : Separator) (before : Bool) (text : Array Char) :
    (fuel front stop : Nat) → List String
  | 0, _, _ => []
  | fuel + 1, front, stop =>
    let part (start stop : Nat) : String := String.ofList (text.extract start stop).toList
    match last? separator text front front with
    | none => [part 0 stop]
    | some (place, length) =>
      let cut := if before then place else place + length
      let rest := parts separator before text fuel place cut
      -- nothing stands behind a separator at the end
      if !before && cut = text.size && stop = text.size then rest else part cut stop :: rest

end Reversal

-- Parts of texts from the last one to the first one, file by file.
def tacTool (args : List String) : Work Nat :=
  let forms : List OptionForm :=
    [⟨'s', "separator", .value⟩, ⟨'b', "before", .nothing⟩, ⟨'r', "regex", .nothing⟩]
  withOptions "tac" forms 1 args fun g => do
    let sign := (g.value? 's').getD "\n"
    let separator : Except String Reversal.Separator :=
      if !g.has 'r' then .ok (.text (if sign = "" then ['\x00'] else sign.toList))
      else if sign = "" then .error "separator cannot be empty"
      else (Regex.parse {} sign).map .pattern
    match separator with
    | .error text =>
      toolComplain "tac" text
      return 1
    | .ok separator =>
      let names := if g.operands.isEmpty then ["-"] else g.operands
      let statuses ← names.mapM fun name => do
        match ← readNamed name with
        | .ok text =>
          let cs := text.toList.toArray
          print <| String.join <|
            Reversal.parts separator (g.has 'b') cs (cs.size + 1) cs.size cs.size
          return 0
        | .error e =>
          toolComplain "tac"
            ("failed to open " ++ ShellWord.always name ++ " for reading: " ++ e.text)
          return 1
      return statuses.foldl max 0

def revTool (args : List String) : Work Nat :=
  withOptions "rev" [] 1 args fun g => do
    let (text, status) ← readTogether "rev" "cannot open " g.operands 1
    let parts := text.toList.splitOn '\n'
    print (String.ofList (['\n'].intercalate (parts.map List.reverse)))
    return status

namespace Counting

structure Counts where
  lines : Nat := 0
  words : Nat := 0
  bytes : Nat := 0
  longest : Nat := 0

-- What is not printed starts no word.
def wordCount (cs : List Char) : Nat :=
  (cs.foldl
    (fun (n, inside) c =>
      if isSpace c then (n, false)
      else if inside || !isPrinted c then (n, inside)
      else (n + 1, true))
    (0, false)).1

-- The width of a line, where tabs go on to the next place that eight divides.
def lineWidth (line : List Char) : Nat :=
  line.foldl (fun n c => if c = '\t' then n + 8 - n % 8 else if isPrinted c then n + 1 else n) 0

def ofText (s : String) : Counts :=
  let cs := s.toList
  let parts := cs.splitOnP fun c => c ∈ ['\n', '\r', '\x0c']
  ⟨cs.count '\n', wordCount cs, cs.length, (parts.map lineWidth).foldl max 0⟩

def add (a b : Counts) : Counts :=
  ⟨a.lines + b.lines, a.words + b.words, a.bytes + b.bytes, max a.longest b.longest⟩

-- Numbers are written as wide as the size of all files needs, and wider for anything else.
def width (sizes : List (Option Nat)) (single : Bool) : Nat :=
  if single then 1
  else
    let total := (sizes.filterMap id).foldl (· + ·) 0
    let digits := (toString total).length
    if sizes.any (·.isNone) then max 7 digits else digits

def forms : List OptionForm :=
  [⟨'c', "bytes", .nothing⟩, ⟨'m', "chars", .nothing⟩, ⟨'l', "lines", .nothing⟩,
   ⟨'w', "words", .nothing⟩, ⟨'L', "max-line-length", .nothing⟩, ⟨'τ', "total", .value⟩]

-- When the sums of all files are written.
def totalModes : List String :=
  ["auto", "always", "only", "never"]

-- The numbers that are asked for, in their fixed order.
def fields (letters : List Char) (c : Counts) : List Nat :=
  [('l', c.lines), ('w', c.words), ('m', c.bytes), ('c', c.bytes), ('L', c.longest)].filterMap
    fun (letter, n) => if letter ∈ letters then some n else none

def row (width : Nat) (letters : List Char) (c : Counts) (name : Option String) : String :=
  " ".intercalate ((fields letters c).map fun n => padLeft width (toString n)) ++
    match name with
    | some n => " " ++ n ++ "\n"
    | none => "\n"

-- The size of a file, unless it is something else.
def fileSize? (name : String) : Work (Option Nat) := do
  let s ← get
  if name = "-" then
    match s.opened 0 with
    | .ok o =>
      match o.device with
      | .file path => return some (s.machine.content path).length
      | _ => return none
    | .error _ => return some 0
  else
    match s.machine.find s.folder name with
    | .ok (_, some (.file text _)) => return some text.length
    | .ok (_, some .folder) => return none
    | _ => return if streamPath? name |>.isSome then none else some 0

end Counting

open Counting in
def wcTool (args : List String) : Work Nat :=
  withOptions "wc" Counting.forms 1 args fun g => do
    match choice? "total" totalModes ((g.value? 'τ').getD "auto") with
    | .ok mode =>
      let chosen := (g.options.map (·.1)).filter (· ≠ 'τ')
      let letters := if chosen.isEmpty then ['l', 'w', 'c'] else chosen
      let names := if g.operands.isEmpty then ["-"] else g.operands
      let sizes ← names.mapM fileSize?
      let single := mode = "only" || (names.length = 1 && (fields letters {}).length = 1)
      let width := width sizes single
      let tell (counts : Counts) (name : Option String) : Work Unit :=
        if mode = "only" then return else print (row width letters counts name)
      let texts ← names.mapM fun name => do
        match ← readNamed name with
        | .ok text =>
          tell (ofText text) (shown g name)
          return some text
        | .error e =>
          toolComplain "wc" (ShellWord.inFront name ++ ": " ++ e.text)
          if e = .isFolder || e = .badStream then tell {} (shown g name)
          return none
      let total := (texts.filterMap id).foldl (fun t s => add t (ofText s)) {}
      if mode = "only" then print (row width letters total none)
      else if mode = "always" || (mode = "auto" && names.length > 1) then
        tell total (some "total")
      return if texts.any (·.isNone) then 1 else 0
    | .error text => misuse "wc" text 1
where
  -- The input has no name where no files are given.
  shown (g : Given) (name : String) : Option String :=
    if g.operands.isEmpty then none else some name

namespace Cutting

-- Which part of a text is kept: so many lines or bytes, or all but so many, counted from one end.
structure Part where
  bytes : Bool := false
  count : Nat := 10
  allBut : Bool := false

def units (part : Part) (stop : Char) (s : String) : List String :=
  if part.bytes then s.toList.map String.singleton else fullLines stop s

def front (part : Part) (stop : Char) (s : String) : String :=
  let l := units part stop s
  String.join (if part.allBut then l.take (l.length - part.count) else l.take part.count)

-- All but so many at the end means from that place on.
def back (part : Part) (stop : Char) (s : String) : String :=
  let l := units part stop s
  String.join (if part.allBut then l.drop (part.count - 1) else l.drop (l.length - part.count))

def forms : List OptionForm :=
  [⟨'n', "lines", .value⟩, ⟨'c', "bytes", .value⟩, ⟨'q', "quiet", .nothing⟩,
   ⟨'q', "silent", .nothing⟩, ⟨'v', "verbose", .nothing⟩, ⟨'z', "zero-terminated", .nothing⟩]

def tailForms : List OptionForm :=
  forms ++ [⟨'f', "follow", .joined⟩, ⟨'F', "", .nothing⟩, ⟨'s', "sleep-interval", .value⟩]

-- A count with the sign that turns it around.
def part? (turn : Char) (letter : Char) (value : String) : Except String Part :=
  let what := if letter = 'c' then "bytes" else "lines"
  let (turned, text) :=
    match value.toList with
    | c :: r => if c = turn then (true, String.ofList r)
      else if c = '-' || c = '+' then (false, String.ofList r) else (false, value)
    | [] => (false, value)
  match sized? text with
  | some n => .ok ⟨letter = 'c', n, turned⟩
  | none => .error ("invalid number of " ++ what ++ ": " ++ quoted value)

-- The first argument may be a sign with digits, and letters behind them.
def old? (sign : Char) (args : List String) : Option (List String) :=
  match args with
  | a :: args =>
    match a.toList with
    | c :: d :: r =>
      if c = sign && d.isDigit then
        let (ds, letters) := (d :: r).span Char.isDigit
        let count := (if sign = '+' then "+" else "") ++ String.ofList ds
        let option := if 'c' ∈ letters then "-c" else "-n"
        let others := letters.filter (· ∈ ['q', 'v', 'z'])
        if letters.all (· ∈ ['c', 'l', 'q', 'v', 'z']) then
          some ([option, count] ++ others.map (fun l => String.ofList ['-', l]) ++ args)
        else none
      else none
    | _ => none
  | [] => none

-- Parts of several files have their names above them.
def each (tool : String) (g : Given) (cut : String → String) : Work Nat := do
  let names := if g.operands.isEmpty then ["-"] else g.operands
  let titled := if g.last? ['q', 'v'] = some 'v' then true
    else names.length > 1 && !g.has 'q'
  go titled names true 0
where
  go (titled : Bool) : List String → (first : Bool) → (status : Nat) → Work Nat
    | [], _, status => return status
    | name :: names, first, status => do
      let title := if name = "-" then "standard input" else name
      match ← readNamed name with
      | .error e =>
        if e = .isFolder then
          toolComplain tool ("error reading " ++ ShellWord.always name ++ ": " ++ e.text)
        else
          toolComplain tool ("cannot open " ++ ShellWord.always name ++ " for reading: " ++ e.text)
        go titled names first 1
      | .ok text =>
        if titled then print ((if first then "" else "\n") ++ "==> " ++ title ++ " <==\n")
        print (cut text)
        go titled names false status

-- How much of the input is taken for its front. Lines are read in blocks, but what is read too much
-- of a file is given back.
def taken (part : Part) (stop : Char) (isPipe : Bool) (cs : List Char) : Nat :=
  let n := (front part stop (String.ofList cs)).length
  if part.allBut then cs.length
  else if part.bytes || !isPipe then n
  else min cs.length (8192 * ((n + 8191) / 8192))

def readsPipe (s : Shell) : Bool :=
  match s.opened 0 with
  | .ok { device := .pipe _, .. } => true
  | _ => false

end Cutting

open Cutting in
def headTool (args : List String) : Work Nat :=
  withOptions "head" Cutting.forms 1 ((old? '-' args).getD args) fun g => do
    let chosen := g.options.reverse.find? fun o => o.1 = 'n' || o.1 = 'c'
    let stop := if g.has 'z' then '\x00' else '\n'
    match chosen.elim (.ok {}) fun o => part? '-' o.1 o.2 with
    | .error text =>
      toolComplain "head" text
      return 1
    | .ok part =>
      if g.operands.isEmpty && !g.has 'v' then
        let isPipe := readsPipe (← get)
        match ← readPart 0 (taken part stop isPipe) with
        | .ok cs =>
          print (front part stop (String.ofList cs))
          return 0
        | .error e =>
          toolComplain "head" ("error reading 'standard input': " ++ e.text)
          return 1
      else each "head" g (front part stop)

open Cutting in
def tailTool (args : List String) : Work Nat :=
  let args := (old? '-' args).getD ((old? '+' args).getD args)
  withOptions "tail" Cutting.tailForms 1 args fun g => do
    let chosen := g.options.reverse.find? fun o => o.1 = 'n' || o.1 = 'c'
    let stop := if g.has 'z' then '\x00' else '\n'
    match chosen.elim (.ok {}) fun o => part? '+' o.1 o.2 with
    | .error text =>
      toolComplain "tail" text
      return 1
    | .ok part => each "tail" g (back part stop)

namespace Branching

-- What is done where a copy cannot be written.
structure OnFailure where
  -- whether a pipe that nobody reads from ends the program, and whether it is complained about
  endsByPipe : Bool := true
  tellsPipe : Bool := false
  -- whether a complaint ends the program
  endsByComplaint : Bool := false

-- The choices for that, by name.
def onFailures : List (String × OnFailure) :=
  [("warn", ⟨false, true, false⟩), ("warn-nopipe", ⟨false, false, false⟩),
   ("exit", ⟨false, true, true⟩), ("exit-nopipe", ⟨false, false, true⟩)]

def forms : List OptionForm :=
  [⟨'a', "append", .nothing⟩, ⟨'i', "ignore-interrupts", .nothing⟩, ⟨'p', "", .nothing⟩,
   ⟨'π', "output-error", .joined⟩]

def onFailure? (g : Given) : Except String OnFailure :=
  match g.last? ['p', 'π'], g.value? 'π' with
  | none, _ => .ok {}
  | some 'p', _ | some _, none | some _, some "" => .ok ⟨false, false, false⟩
  | some _, some word =>
    (choice? "output-error" (onFailures.map (·.1)) word).map fun k =>
      (onFailures.lookup k).getD {}

-- Open the targets that can be opened. The result tells whether all could.
def openAll (how : OnFailure) (opening : Opening) :
    List String → Work (List (String × Opened) × Bool)
  | [] => return ([], true)
  | name :: names => do
    match ← openPath name opening with
    | .ok o =>
      let (targets, all) ← openAll how opening names
      return ((name, o) :: targets, all)
    | .error e =>
      toolComplain "tee" (ShellWord.inFront name ++ ": " ++ e.text)
      if how.endsByComplaint then return ([], false)
      else return ((← openAll how opening names).1, false)

-- Write a text to one target after the other. The result tells whether that went well.
def copy (how : OnFailure) (text : String) : List (String × Opened) → Work Bool
  | [] => return true
  | (name, o) :: targets => do
    match ← writeTo o text with
    | none => copy how text targets
    | some e =>
      if !(← isOn) then return false
      else if e = .brokenPipe && !how.tellsPipe then copy how text targets
      else
        toolComplain "tee" (ShellWord.inFront name ++ ": " ++ e.text)
        if !how.endsByComplaint then
          let _ ← copy how text targets
        return false

end Branching

open Branching in
def teeTool (args : List String) : Work Nat :=
  withOptions "tee" Branching.forms 1 args fun g => do
    match onFailure? g with
    | .error text => misuse "tee" text 1
    | .ok how =>
      if !how.endsByPipe then modify fun s => { s with traps := ("PIPE", "") :: s.traps }
      let (targets, opened) ← openAll how (if g.has 'a' then .append else .write) g.operands
      if !opened && how.endsByComplaint then return 1
      let input ← readAll 0
      let text := input.toOption.getD ""
      let output := match (← get).opened 1 with
        | .ok o => o
        | .error _ => { number := 0, device := .nothing, writes := false }
      let written ←
        if text.isEmpty then pure true else copy how text (("standard output", output) :: targets)
      match input with
      | .ok _ => return if opened && written then 0 else 1
      | .error e =>
        toolComplain "tee" ("read error: " ++ e.text)
        return 1

-- Tabs as blanks up to the next place that a number divides.
namespace Tabs

-- Places where tabs end, and how they go on behind the last one: at places that a number divides,
-- or at the same distance from the last one.
structure Stops where
  places : List Nat := []
  multiple : Nat := 0
  distance : Nat := 0

-- The next place behind one, if there is any.
def Stops.next? (t : Stops) (place : Nat) : Option Nat :=
  match t.places.find? (place < ·) with
  | some stop => some stop
  | none =>
    let last := t.places.getLastD 0
    if t.multiple > 0 then some (place + t.multiple - place % t.multiple)
    else if t.distance > 0 then some (place + t.distance - (place - last) % t.distance)
    else none

-- A list of places with more ones in it.
def withList (t : Stops) (text : String) : Except String Stops := do
  let parts := (text.toList.splitOnP fun c => c = ',' || c = ' ' || c = '\t').filter (· ≠ [])
  parts.foldlM
    (fun t part => do
      let (sign, ds) :=
        match part with
        | '/' :: ds => ('/', ds)
        | '+' :: ds => ('+', ds)
        | ds => (' ', ds)
      if !ds.all Char.isDigit then
        throw ("tab size contains invalid character(s): " ++
          quoted (String.ofList (part.dropWhile fun c => c.isDigit || c = '/' || c = '+')))
      let n := ofDigits 10 ds
      match sign with
      | '/' => return { t with multiple := n }
      | '+' => return { t with distance := n }
      | _ => return { t with places := t.places ++ [n] })
    t

-- A single place is a distance. The others are in order.
def Stops.checked (t : Stops) : Except String Stops := do
  if t.places.any (· = 0) then throw "tab size cannot be 0"
  let isSorted := (t.places.zip t.places.tail).all fun (a, b) => a < b
  if !isSorted then throw "tab sizes must be ascending"
  match t.places with
  | [] => return if t.multiple > 0 || t.distance > 0 then t else { t with multiple := 8 }
  | [n] =>
    return if t.multiple > 0 || t.distance > 0 then t else { t with places := [], multiple := n }
  | _ => return t

-- A text with blanks for tabs. Those behind something else may stay.
def expand (t : Stops) (onlyFront : Bool) : (place : Nat) → (atFront : Bool) → List Char → List Char
  | _, _, [] => []
  | place, atFront, c :: r =>
    if c = '\n' then c :: expand t onlyFront 0 true r
    else if onlyFront && !atFront then c :: expand t onlyFront place false r
    else if c = '\t' then
      let stop := (t.next? place).getD (place + 1)
      List.replicate (stop - place) ' ' ++ expand t onlyFront stop atFront r
    else if c = '\x08' then c :: expand t onlyFront (place - 1) false r
    else c :: expand t onlyFront (place + 1) (atFront && c = ' ') r

-- Lists of places may be options of their own.
def withLists (args : List String) : List String :=
  args.map fun a =>
    match a.toList with
    | '-' :: c :: r =>
      let isList := c.isDigit && r.all fun d => d.isDigit || d = ','
      if isList then "-t" ++ String.ofList (c :: r) else a
    | _ => a

end Tabs

open Tabs in
def expandTool (args : List String) : Work Nat :=
  let forms : List OptionForm := [⟨'t', "tabs", .value⟩, ⟨'i', "initial", .nothing⟩]
  withOptions "expand" forms 1 (withLists args) fun g => do
    let lists := (g.options.filter (·.1 = 't')).map (·.2)
    match (lists.foldlM withList ({} : Stops)).bind Stops.checked with
    | .error text =>
      toolComplain "expand" text
      return 1
    | .ok stops =>
      let (text, status) ← readTogether "expand" "" g.operands 1
      print (String.ofList (expand stops (g.has 'i') 0 true text.toList))
      return status

-- So many blocks of the input, after some that are left out.
def ddTool (args : List String) : Work Nat := do
  let given := args.map fun a =>
    let (name, value) := a.toList.span (· ≠ '=')
    (String.ofList name, String.ofList (value.drop 1))
  let number (name : String) : Option Nat := (given.lookup name).bind sized?
  let size := max 1 ((number "bs").getD ((number "ibs").getD 512))
  let skipped := size * (number "skip").getD 0
  let wanted (cs : List Char) : Nat :=
    match number "count" with
    | some n => min cs.length (skipped + size * n)
    | none => cs.length
  let input ←
    match given.lookup "if" with
    | some name => do
      let text ← readNamed name
      pure (text.map fun s => s.toList.take (wanted s.toList))
    | none => readPart 0 wanted
  match input with
  | .error e =>
    toolComplain "dd" ("failed to open '" ++ (given.lookup "if").getD "standard input" ++ "': " ++
      e.text)
    return 1
  | .ok cs =>
    let text := String.ofList (cs.drop skipped)
    let refused ←
      match given.lookup "of" with
      | some name => writeNamed name text .write
      | none => do
        print text
        pure none
    let odd := if text.length % size = 0 then "0" else "1"
    let blocks := toString (text.length / size) ++ "+" ++ odd
    complainLine (blocks ++ " records in\n" ++ blocks ++ " records out")
    return if refused.isSome then 1 else 0

namespace Numbering

-- Which lines have numbers.
inductive Which
  | all
  | filled
  | none
  | fitting (r : Regex)

-- How numbers of lines are written.
structure Style where
  header : Which := .none
  body : Which := .filled
  footer : Which := .none
  width : Nat := 6
  separator : String := "\t"
  start : Int := 1
  step : Int := 1
  format : String := "rn"
  -- so many blank lines count as one
  blanks : Nat := 1
  -- numbers go on in the next section
  goesOn : Bool := false
  mark : String := "\\:"

def number (style : Style) (n : Int) : String :=
  let digits := toString n.natAbs
  let sign := if n < 0 then "-" else ""
  if style.format = "ln" then padRight style.width (sign ++ digits)
  else if style.format = "rz" then
    sign ++ String.ofList (List.replicate (style.width - sign.length - digits.length) '0') ++
      digits
  else padLeft style.width (sign ++ digits)

-- The next number, which lines have them, and how many blank lines were passed.
structure State where
  next : Int
  which : Which
  blanks : Nat := 0

-- A line of a text, which may start a section of a page.
def line (style : Style) (s : State) (text : String) : String × State :=
  let start (which : Which) : String × State :=
    ("\n", { s with which := which, next := if style.goesOn then s.next else style.start })
  let numbered (s : State) : String × State :=
    (number style s.next ++ style.separator ++ text ++ "\n", { s with next := s.next + style.step })
  let bare (s : State) : String × State :=
    (String.ofList (List.replicate (style.width + style.separator.length) ' ') ++ text ++ "\n", s)
  let isMark (count : Nat) : Bool :=
    style.mark.length > 1 && text = String.join (List.replicate count style.mark)
  if isMark 3 then start style.header
  else if isMark 2 then start style.body
  else if isMark 1 then start style.footer
  else
    match s.which with
    | .all =>
      if style.blanks ≤ 1 then numbered s
      else if text ≠ "" || s.blanks + 1 = style.blanks then numbered { s with blanks := 0 }
      else bare { s with blanks := s.blanks + 1 }
    | .filled => if text = "" then bare s else numbered s
    | .none => bare s
    | .fitting r => if r.isIn { chars := text.toList.toArray } then numbered s else bare s

def forms : List OptionForm :=
  [⟨'b', "body-numbering", .value⟩, ⟨'d', "section-delimiter", .value⟩,
   ⟨'f', "footer-numbering", .value⟩, ⟨'h', "header-numbering", .value⟩,
   ⟨'i', "line-increment", .value⟩, ⟨'l', "join-blank-lines", .value⟩,
   ⟨'n', "number-format", .value⟩, ⟨'p', "no-renumber", .nothing⟩,
   ⟨'s', "number-separator", .value⟩, ⟨'v', "starting-line-number", .value⟩,
   ⟨'w', "number-width", .value⟩]

-- What is wrong with an option, and whether the program ends with that at once.
structure Fault where
  text : String
  isFinal : Bool

def which? (part value : String) : Except Fault Which :=
  match value.toList with
  | 'a' :: _ => .ok .all
  | 't' :: _ => .ok .filled
  | 'n' :: _ => .ok .none
  | 'p' :: cs =>
    match Regex.parse { checked := true } (String.ofList cs) with
    | .ok r => .ok (.fitting r)
    | .error text => .error ⟨text, true⟩
  | _ => .error ⟨"invalid " ++ part ++ " numbering style: " ++ quoted value, false⟩

-- A number that is not too small.
def count? (what : String) (least : Option Int) (value : String) : Except Fault Int :=
  let wrong (more : String) : Except Fault Int :=
    .error ⟨"invalid " ++ what ++ ": " ++ quoted value ++ more, true⟩
  match leadingInteger? 10 value.toList with
  | some (n, []) =>
    if clamp n ≠ n then wrong ": Value too large for defined data type"
    else if least.any (n < ·) then wrong ": Numerical result out of range"
    else .ok n
  | _ => wrong ""

-- A style with one more option.
def withOption (style : Style) (o : Char × String) : Except Fault Style := do
  let value := o.2
  match o.1 with
  | 'b' => return { style with body := ← which? "body" value }
  | 'f' => return { style with footer := ← which? "footer" value }
  | 'h' => return { style with header := ← which? "header" value }
  | 'v' => return { style with start := ← count? "starting line number" none value }
  | 'i' => return { style with step := ← count? "line number increment" none value }
  | 'l' =>
    return { style with
      blanks := (← count? "line number of blank lines" (some 1) value).toNat }
  | 'w' =>
    return { style with width := (← count? "line number field width" (some 1) value).toNat }
  | 's' => return { style with separator := value }
  | 'p' => return { style with goesOn := true }
  | 'd' =>
    let mark :=
      if value.length = 1 then value ++ String.ofList (style.mark.toList.drop 1) else value
    return { style with mark := mark }
  | _ =>
    if value ∈ ["ln", "rn", "rz"] then return { style with format := value }
    else throw ⟨"invalid line numbering format: " ++ quoted value, false⟩

-- The style that options describe. Faults that do not end the program are told together.
def style? : Style → (faults : List String) → List (Char × String) → List String × Bool × Style
  | style, faults, [] => (faults, false, style)
  | style, faults, o :: os =>
    match withOption style o with
    | .ok style => style? style faults os
    | .error ⟨text, true⟩ => (faults ++ [text], true, style)
    | .error ⟨text, false⟩ => style? style (faults ++ [text]) os

end Numbering

open Script.Numbering in
def nlTool (args : List String) : Work Nat :=
  withOptions "nl" Numbering.forms 1 args fun g => do
    let (faults, isFinal, style) := style? {} [] g.options
    for text in faults do toolComplain "nl" text
    if !faults.isEmpty then
      if !isFinal then usageHint "nl"
      return 1
    let (text, status) ← readTogether "nl" "" g.operands 1
    let (out, _) := (linesOf text).foldl
      (fun (out, s) l =>
        let (text, s) := line style s l
        (text :: out, s))
      (([] : List String), ({ next := style.start, which := style.body } : State))
    print (String.join out.reverse)
    return status

end Rulebook.Script
