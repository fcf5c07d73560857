import Rulebook.Script.Regex
import Rulebook.Script.Tool.Stream

namespace Rulebook.Script

namespace Search

-- What becomes of files with zeros in them.
inductive Binary
  -- only whether something was found in them is told
  | told
  | text
  | skipped
  deriving DecidableEq

-- What is looked for, and what is written about the lines where it is found.
structure Style where
  expressions : List Regex := []
  ignoresCase : Bool := false
  inverted : Bool := false
  words : Bool := false
  lines : Bool := false
  counts : Bool := false
  names : Bool := false
  namesWithout : Bool := false
  quiet : Bool := false
  numbers : Bool := false
  offsets : Bool := false
  parts : Bool := false
  titled : Bool := false
  binary : Binary := .told
  -- lines end with zeros, and so do names
  zeros : Bool := false
  zeroNames : Bool := false
  aligned : Bool := false
  painted : Bool := false
  label : String := "(standard input)"
  gap : Option String := some "--"
  most : Option Nat := none
  before : Option Nat := none
  after : Option Nat := none

namespace Style

def lineStop (style : Style) : Char :=
  if style.zeros then '\x00' else '\n'

-- Whether lines around those that were found are asked for.
def isGrouped (style : Style) : Bool :=
  style.before.isSome || style.after.isSome

-- A text in a colour, where colours are asked for.
def paint (style : Style) (colour text : String) : String :=
  if style.painted then "\x1b[" ++ colour ++ "m\x1b[K" ++ text ++ "\x1b[m\x1b[K" else text

-- A name before what is told about it.
def title (style : Style) (name sign : String) : String :=
  style.paint "35" name ++ if style.zeroNames then "\x00" else style.paint "36" sign

end Style

-- A stretch that is a whole line or consists of whole words, where that is asked for.
def isWanted (style : Style) (t : Regex.Subject) (start stop : Nat) : Bool :=
  (!style.lines || (start = 0 && stop = t.chars.size)) &&
    (!style.words || (!t.isWordBefore start && !t.isWordAt stop))

-- The longest stretch at a place that is wanted.
def stretchAt? (style : Style) (t : Regex.Subject) (start : Nat) : Option Nat :=
  let ends := style.expressions.flatMap fun r =>
    (r.ends r.asksAgain t { place := start }).map (·.place)
  (ends.filter (isWanted style t start)).foldl
    (fun best e => if best.any (e ≤ ·) then best else some e) none

def find? (style : Style) (t : Regex.Subject) (start : Nat) : Option (Nat × Nat) :=
  (List.range' start (t.chars.size + 1 - start)).findSome? fun i =>
    (stretchAt? style t i).map ((i, ·))

-- The places of all stretches of a line that are not empty.
def stretches (style : Style) (t : Regex.Subject) : (fuel start : Nat) → List (Nat × Nat)
  | 0, _ => []
  | fuel + 1, start =>
    match find? style t start with
    | none => []
    | some (i, j) =>
      if j > i then (i, j) :: stretches style t fuel j else stretches style t fuel (i + 1)

def subject (style : Style) (line : List Char) : Regex.Subject :=
  { chars := line.toArray, ignoresCase := style.ignoresCase }

def isSelected (style : Style) (line : List Char) : Bool :=
  (find? style (subject style line) 0).isSome != style.inverted

-- A line with its number, where it starts, and whether it is selected.
structure Row where
  number : Nat
  offset : Nat
  text : List Char
  selected : Bool

def rows (style : Style) : (number offset : Nat) → List (List Char) → List Row
  | _, _, [] => []
  | number, offset, l :: ls =>
    ⟨number, offset, l, isSelected style l⟩ :: rows style (number + 1) (offset + l.length + 1) ls

-- Selected lines beyond the limit do not count.
def limited : (most : Option Nat) → List Row → List Row
  | none, rs => rs
  | some _, [] => []
  | some n, r :: rs =>
    if r.selected then
      match n with
      | 0 => { r with selected := false } :: limited (some 0) rs
      | n + 1 => r :: limited (some n) rs
    else r :: limited (some n) rs

-- What stands before a line or a part of it.
def front (style : Style) (name sign : String) (r : Row) (offset : Nat) : String :=
  let number (n : Nat) : String :=
    let text := toString n
    style.paint "32" (if style.aligned then padLeft 19 text else text) ++ style.paint "36" sign
  let s := (if style.titled then style.title name sign else "") ++
    (if style.numbers then number r.number else "") ++ if style.offsets then number offset else ""
  if style.aligned && s ≠ "" && !r.text.isEmpty then s ++ "\t" else s

-- A text from a place on with stretches of it in a colour.
def paintedFrom (style : Style) (t : Regex.Subject) : (start : Nat) → List (Nat × Nat) → String
  | start, [] => t.slice start t.chars.size
  | start, (i, j) :: more =>
    t.slice start i ++ style.paint "01;31" (t.slice i j) ++ paintedFrom style t j more

-- The texts that are written for a line.
def texts (style : Style) (name : String) (r : Row) : List String :=
  let t := subject style r.text
  let sign := if r.selected then ":" else "-"
  let hits := if style.parts || style.painted then stretches style t (r.text.length + 1) 0 else []
  if style.parts then
    if r.selected && !style.inverted then
      hits.map fun (i, j) =>
        front style name sign r (r.offset + i) ++ style.paint "01;31" (t.slice i j)
    else []
  else
    let text :=
      if r.selected = style.inverted then String.ofList r.text else paintedFrom style t 0 hits
    [front style name sign r r.offset ++ text]

-- What was written of a text so far: the last line, and how many more lines are to follow it. Lines
-- before the next one that is found are kept.
structure Report where
  last : Nat := 0
  following : Nat := 0
  kept : List Row := []
  pieces : List String := []

namespace Report

def row (style : Style) (name : String) (report : Report) (r : Row) : Report :=
  let stop := String.singleton style.lineStop
  { report with
    last := r.number
    pieces := ((texts style name r).map (· ++ stop)).reverse ++ report.pieces }

-- The mark of a gap between the lines that were written and the next ones.
def gap (style : Style) (report : Report) (next : Nat) : Report :=
  match style.gap with
  | some mark =>
    if style.isGrouped && report.last > 0 && next > report.last + 1 then
      { report with pieces := (style.paint "36" mark ++ "\n") :: report.pieces }
    else report
  | none => report

def add (style : Style) (name : String) (report : Report) (r : Row) : Report :=
  if r.selected then
    let shown := ((report.kept.take (style.before.getD 0)).reverse) ++ [r]
    let report := report.gap style ((shown.head?.map (·.number)).getD r.number)
    { shown.foldl (row style name) report with following := style.after.getD 0, kept := [] }
  else
    match report.following with
    | n + 1 => { report.row style name r with following := n }
    | 0 =>
      if style.before.getD 0 = 0 then report else { report with kept := r :: report.kept }

end Report

-- The lines to be written: selected ones and those around them.
def report (style : Style) (name : String) (rs : List Row) : String :=
  let done := if style.parts && !style.isGrouped then rs.filter (·.selected) else rs
  String.join (done.foldl (Report.add style name) {}).pieces.reverse

-- The lines of a text, without what ends them.
def split (stop : Char → Bool) (cs : List Char) : List (List Char) :=
  let parts := cs.splitOnP stop
  if parts.getLast? = some [] then parts.dropLast else parts

-- What is written about a text, whether that is only a complaint, and whether anything is selected.
def searchText (style : Style) (name text : String) : String × Bool × Bool :=
  let binary := !style.zeros && style.binary ≠ .text && text.contains '\x00'
  if binary && style.binary = .skipped then
    (if style.namesWithout then name ++ "\n" else "", false, false)
  else
    let lines := split (fun c => c = style.lineStop || (binary && c = '\x00')) text.toList
    let rs := limited style.most (rows style 1 0 lines)
    let count := (rs.filter (·.selected)).length
    let found := count > 0
    let named := style.paint "35" name ++ if style.zeroNames then "\x00" else "\n"
    let told (out : String) : String × Bool × Bool := (out, false, found)
    if style.quiet then told ""
    else if style.names then told (if found then named else "")
    else if style.namesWithout then told (if found then "" else named)
    else if style.counts then
      told ((if style.titled then style.title name ":" else "") ++ toString count ++ "\n")
    else if found && binary then ("grep: " ++ name ++ ": binary file matches", true, true)
    else told (report style name rs)

def forms : List OptionForm :=
  [⟨'E', "extended-regexp", .nothing⟩, ⟨'F', "fixed-strings", .nothing⟩,
   ⟨'G', "basic-regexp", .nothing⟩, ⟨'P', "perl-regexp", .nothing⟩, ⟨'e', "regexp", .value⟩,
   ⟨'f', "file", .value⟩, ⟨'i', "ignore-case", .nothing⟩, ⟨'y', "", .nothing⟩,
   ⟨'ι', "no-ignore-case", .nothing⟩, ⟨'v', "invert-match", .nothing⟩,
   ⟨'w', "word-regexp", .nothing⟩, ⟨'x', "line-regexp", .nothing⟩, ⟨'c', "count", .nothing⟩,
   ⟨'l', "files-with-matches", .nothing⟩, ⟨'L', "files-without-match", .nothing⟩,
   ⟨'q', "quiet", .nothing⟩, ⟨'q', "silent", .nothing⟩, ⟨'s', "no-messages", .nothing⟩,
   ⟨'n', "line-number", .nothing⟩, ⟨'b', "byte-offset", .nothing⟩,
   ⟨'H', "with-filename", .nothing⟩, ⟨'h', "no-filename", .nothing⟩,
   ⟨'o', "only-matching", .nothing⟩, ⟨'m', "max-count", .value⟩, ⟨'a', "text", .nothing⟩,
   ⟨'A', "after-context", .value⟩, ⟨'B', "before-context", .value⟩, ⟨'C', "context", .value⟩,
   ⟨'C', "", .digits⟩, ⟨'U', "binary", .nothing⟩, ⟨'r', "recursive", .nothing⟩,
   ⟨'R', "dereference-recursive", .nothing⟩, ⟨'I', "", .nothing⟩,
   ⟨'κ', "color", .joined⟩, ⟨'κ', "colour", .joined⟩, ⟨'ν', "line-buffered", .nothing⟩,
   ⟨'z', "null-data", .nothing⟩, ⟨'Z', "null", .nothing⟩, ⟨'T', "initial-tab", .nothing⟩,
   ⟨'d', "directories", .value⟩, ⟨'D', "devices", .value⟩, ⟨'β', "binary-files", .value⟩,
   ⟨'u', "unix-byte-offsets", .nothing⟩, ⟨'τ', "label", .value⟩,
   ⟨'γ', "group-separator", .value⟩, ⟨'δ', "no-group-separator", .nothing⟩,
   ⟨'ε', "include", .value⟩, ⟨'ε', "exclude", .value⟩, ⟨'ε', "exclude-from", .value⟩,
   ⟨'ε', "exclude-dir", .value⟩]

-- A text of numbers and letters in which some stand for sets, in the terms of extended expressions.
def withoutShorthands : (inSet : Bool) → List Char → List Char
  | false, '(' :: '?' :: ':' :: r => '(' :: withoutShorthands false r
  | inSet, '\\' :: 'd' :: r =>
    (if inSet then "0-9" else "[0-9]").toList ++ withoutShorthands inSet r
  | false, '\\' :: 'D' :: r => "[^0-9]".toList ++ withoutShorthands false r
  | inSet, '\\' :: 'h' :: r =>
    (if inSet then " \t" else "[ \t]").toList ++ withoutShorthands inSet r
  | true, '\\' :: 's' :: r => "[:space:]".toList ++ withoutShorthands true r
  | true, '\\' :: 'w' :: r => "[:alnum:]_".toList ++ withoutShorthands true r
  | inSet, '\\' :: 't' :: r => '\t' :: withoutShorthands inSet r
  | inSet, '\\' :: 'n' :: r => '\n' :: withoutShorthands inSet r
  | false, '\\' :: c :: r => '\\' :: c :: withoutShorthands false r
  | true, '\\' :: c :: r => c :: withoutShorthands true r
  | false, '[' :: '^' :: ']' :: r => '[' :: '^' :: ']' :: withoutShorthands true r
  | false, '[' :: ']' :: r => '[' :: ']' :: withoutShorthands true r
  | false, '[' :: r => '[' :: withoutShorthands true r
  | true, '[' :: ':' :: r => '[' :: ':' :: withoutShorthands true r
  | true, ']' :: r => ']' :: withoutShorthands false r
  | inSet, c :: r => c :: withoutShorthands inSet r
  | _, [] => []

-- How expressions are written where brackets and signs of repetition have no backslashes.
def extendedDialect : Regex.Dialect :=
  { extended := true, lenient := true, checked := true }

-- The expressions in patterns, one on each line.
def expressions? (kind : Char) (patterns : List String) : Except String (List Regex) :=
  let lines := patterns.flatMap fun p => (p.toList.splitOn '\n')
  match kind with
  | 'F' => .ok (lines.map fun l => Regex.ofText (String.ofList l))
  | 'P' =>
    patterns.mapM fun p =>
      Regex.parse extendedDialect (String.ofList (withoutShorthands false p.toList))
  | 'E' => lines.mapM fun l => Regex.parse extendedDialect (String.ofList l)
  | _ => lines.mapM fun l => Regex.parse { checked := true } (String.ofList l)

-- What follows a set after its opening bracket.
def behindSet (cs : List Char) : List Char :=
  let inside := if cs.head? = some '^' then cs.tail else cs
  match (Regex.bracketed extendedDialect false).run { rest := inside } with
  | .ok (_, s) => s.rest
  | .error _ => []

-- Complaints about signs of repetition that have nothing before them.
def loneSigns : (fuel : Nat) → Bool → List Char → List String
  | 0, _, _ | _, _, [] => []
  | fuel + 1, atStart, '\\' :: c :: r =>
    loneSigns fuel (atStart && c ∈ ['\x60', '\'', '<', '>', 'b', 'B']) r
  | fuel + 1, _, '[' :: r => loneSigns fuel false (behindSet r)
  | fuel + 1, atStart, c :: r =>
    let sign (text : String) : List String :=
      if atStart then [text ++ " at start of expression"] else []
    match c with
    | '^' | '$' => loneSigns fuel atStart r
    | '(' | '|' | '\n' => loneSigns fuel true r
    | '*' | '+' | '?' => sign (String.singleton c) ++ loneSigns fuel atStart r
    | '\x7b' =>
      match Regex.bounds? extendedDialect r with
      | .ok (some (_, _, rest)) => sign "\x7b...\x7d" ++ loneSigns fuel false rest
      | _ => loneSigns fuel false r
    | _ => loneSigns fuel false r

-- A count of lines.
def count? (s : String) : Option Int :=
  match leadingInteger? 10 s.toList with
  | some (n, []) => some n
  | _ => none

-- What is wrong with an option.
def fault? (o : Char × String) : Option String :=
  match o.1 with
  | 'm' => if (count? o.2).isNone then some "invalid max count" else none
  | 'A' | 'B' | 'C' =>
    if (count? o.2).any (0 ≤ ·) then none else some (o.2 ++ ": invalid context length argument")
  | 'D' => if o.2 ∈ ["read", "skip"] then none else some "unknown devices method"
  | 'β' =>
    if o.2 ∈ ["binary", "text", "without-match"] then none else some "unknown binary-files type"
  | _ => none

def styleOf (g : Given) (expressions : List Regex) (titled : Bool) : Style where
  expressions := expressions
  ignoresCase := g.last? ['i', 'y', 'ι'] matches some 'i' | some 'y'
  inverted := g.has 'v'
  words := g.has 'w'
  lines := g.has 'x'
  counts := g.has 'c'
  names := g.last? ['l', 'L'] = some 'l'
  namesWithout := g.last? ['l', 'L'] = some 'L'
  quiet := g.has 'q'
  numbers := g.has 'n'
  offsets := g.has 'b'
  parts := g.has 'o'
  titled := titled
  binary :=
    match g.options.reverse.find? fun o => o.1 ∈ ['a', 'I', 'β'] with
    | some ('a', _) | some ('β', "text") => .text
    | some ('I', _) | some ('β', "without-match") => .skipped
    | _ => .told
  zeros := g.has 'z'
  zeroNames := g.has 'Z'
  aligned := g.has 'T'
  painted := (g.value? 'κ').any (· ∈ ["always", "yes", "force"])
  label := (g.value? 'τ').getD "(standard input)"
  gap := (g.options.reverse.find? fun o => o.1 ∈ ['γ', 'δ']).elim (some "--") fun o =>
    if o.1 = 'δ' then none else some o.2
  most := ((g.value? 'm').bind count?).bind fun n => if n < 0 then none else some n.toNat
  before := ((g.value? 'B').orElse fun _ => g.value? 'C').bind fun s => (count? s).map (·.toNat)
  after := ((g.value? 'A').orElse fun _ => g.value? 'C').bind fun s => (count? s).map (·.toNat)

-- Files are searched one after the other. Folders may be passed over in silence.
def files (style : Style) (silent passes : Bool) :
    List String → (found failed : Bool) → Work Nat
  | [], found, failed =>
    return if failed && !(style.quiet && found) then 2 else if found then 0 else 1
  | name :: names, found, failed => do
    match ← readNamed name with
    | .error e =>
      if e = .isFolder && passes then files style silent passes names found failed
      else
        if !silent then toolComplain "grep" (name ++ ": " ++ e.text)
        files style silent passes names found true
    | .ok text =>
      let shown := if name = "-" then style.label else name
      let (out, isComplaint, hit) := searchText style shown text
      if hit && (style.quiet || style.names || style.namesWithout || style.most.isSome) then
        satisfy 0
      if isComplaint then complainLine out else print out
      if style.quiet && hit then return 0
      files style silent passes names (found || hit) failed

-- The lines of the files that patterns are in, up to one that cannot be read.
def listed (tool : String) : List String → Work (Option (List String))
  | [] => return some []
  | name :: names => do
    match ← readNamed name with
    | .ok text => return (← listed tool names).map (linesOf text ++ ·)
    | .error e =>
      toolComplain tool (name ++ ": " ++ e.text)
      return none

def usage (tool : String) : Work Nat := do
  complainLine ("Usage: " ++ tool ++ " [OPTION]... PATTERNS [FILE]...")
  usageHint tool
  return 2

-- Search files for patterns. Without any pattern no line fits.
def search (tool : String) (kind : Char) (g : Given) (patterns names : List String) :
    Work Nat := do
  let titled :=
    match g.last? ['h', 'H'] with
    | some 'h' => false
    | some _ => true
    | none => names.length > 1
  let style := styleOf g [] titled
  let isPlain := patterns.all (· = "") && !style.words && !style.lines
  let isVain := if patterns = [] then !style.inverted else isPlain && style.inverted
  if (style.most = some 0 || isVain) && !style.namesWithout then return 1
  match expressions? kind patterns with
  | .error text =>
    toolComplain tool text
    return 2
  | .ok es =>
    let text := "\n".intercalate patterns
    if kind = 'E' then
      for complaint in loneSigns (text.length + 1) true text.toList do
        toolComplain tool ("warning: " ++ complaint)
    let recursive := g.has 'r' || g.has 'R' || g.value? 'd' = some "recurse"
    let names := if names.isEmpty && !recursive then ["-"] else names
    files { style with expressions := es } (g.has 's') (recursive || g.value? 'd' = some "skip")
      names false false

end Search

open Search in
def grepTool (tool : String) (kind : Char) (args : List String) : Work Nat := do
  match OptionForm.parse Search.forms true args with
  | .error text =>
    toolComplain tool text
    usage tool
  | .ok g =>
    let kinds := (g.options.map (·.1)).filter (· ∈ ['E', 'F', 'G', 'P'])
    if 'P' ∈ kinds && kinds.any (· ≠ 'P') then
      toolComplain tool "conflicting matchers specified"
      return 2
    if let some text := g.options.findSome? fault? then
      toolComplain tool text
      return 2
    match ← listed tool ((g.options.filter (·.1 = 'f')).map (·.2)) with
    | none => return 2
    | some inFiles =>
      if g.has 'u' then toolComplain tool "warning: --unix-byte-offsets (-u) is obsolete"
      let kind := kinds.getLastD kind
      let given := (g.options.filter (·.1 = 'e')).map (·.2) ++ inFiles
      if g.has 'e' || g.has 'f' then search tool kind g given g.operands
      else
        match g.operands with
        | p :: names => search tool kind g [p] names
        | [] => usage tool

end Rulebook.Script
