import Rulebook.Script.Decimal
import Rulebook.Script.Tool.Stream

namespace Rulebook.Script

namespace Sorting

-- How keys are compared. The letters are those of the options.
structure Style where
  letters : List Char := []

namespace Style

def has (s : Style) (c : Char) : Bool :=
  c ∈ s.letters

end Style

-- A part of a line: from a field and a character in it to another one, counted from one. Without an
-- end it goes on to the end of the line.
structure Key where
  field : Nat
  char : Nat := 1
  -- the end, where no character means the whole field
  last : Option (Nat × Nat) := none
  skipsAtEnd : Bool := false
  style : Style := {}

structure Order where
  style : Style := {}
  keys : List Key := []
  separator : Option Char := none
  stable : Bool := false
  unique : Bool := false

def isBlank (c : Char) : Bool :=
  c = ' ' || c = '\t' || c = '\n'

-- What is left of a line after so many fields. Blanks in front of a field belong to it.
def afterFields (separator : Option Char) : Nat → List Char → List Char
  | 0, cs => cs
  | n + 1, cs =>
    match separator with
    | some t => afterFields separator n ((cs.dropWhile (· ≠ t)).drop 1)
    | none => afterFields separator n ((cs.dropWhile isBlank).dropWhile (!isBlank ·))

-- The same, where the separator after the last field stays.
def afterWholeFields (separator : Option Char) (n : Nat) (cs : List Char) : List Char :=
  match separator, n with
  | some t, n + 1 => (afterFields separator n cs).dropWhile (· ≠ t)
  | _, n => afterFields separator n cs

def Key.start (separator : Option Char) (k : Key) (cs : List Char) : List Char :=
  let r := afterFields separator (k.field - 1) cs
  (if k.style.has 'b' then r.dropWhile isBlank else r).drop (k.char - 1)

-- What is behind a key.
def Key.behind (separator : Option Char) (k : Key) (cs : List Char) : List Char :=
  match k.last with
  | none => []
  | some (field, 0) => afterWholeFields separator field cs
  | some (field, char) =>
    let r := afterFields separator (field - 1) cs
    (if k.skipsAtEnd then r.dropWhile isBlank else r).drop char

def Key.text (separator : Option Char) (k : Key) (cs : List Char) : List Char :=
  let start := k.start separator cs
  start.take (start.length - (k.behind separator cs).length)

-- The number in front of a text: its sign, and the digits before and behind the point.
structure Amount where
  negative : Bool
  whole : List Char
  fraction : List Char

def amount (cs : List Char) : Amount × List Char :=
  let (negative, r) :=
    match cs.dropWhile isBlank with
    | '-' :: r => (true, r)
    | r => (false, r)
  let (whole, r) := r.span Char.isDigit
  let (fraction, r) :=
    match r with
    | '.' :: r => r.span Char.isDigit
    | r => ([], r)
  (⟨negative, whole.dropWhile (· = '0'), (fraction.reverse.dropWhile (· = '0')).reverse⟩, r)

def Amount.isZero (a : Amount) : Bool :=
  a.whole.isEmpty && a.fraction.isEmpty

def compareTexts (a b : List Char) : Ordering :=
  compare (String.ofList a) (String.ofList b)

def Amount.compareSize (a b : Amount) : Ordering :=
  (compare a.whole.length b.whole.length).then
    ((compareTexts a.whole b.whole).then (compareTexts a.fraction b.fraction))

def Amount.compare (a b : Amount) : Ordering :=
  let sign (a : Amount) : Int := if a.isZero then 0 else if a.negative then -1 else 1
  (Ord.compare (sign a) (sign b)).then
    (if sign a < 0 then b.compareSize a else a.compareSize b)

-- The size that a letter behind a number stands for.
def magnitude (a : Amount) (r : List Char) : Int :=
  let n : Int :=
    match r with
    | c :: _ => ([['K', 'k'], ['M'], ['G'], ['T'], ['P'], ['E'], ['Z'], ['Y'], ['R'],
      ['Q']].findIdx? (c ∈ ·)).elim 0 (· + 1)
    | [] => 0
  if a.isZero then 0 else if a.negative then -n else n

def month (cs : List Char) : Nat :=
  let name := upper (String.ofList ((cs.dropWhile isBlank).take 3))
  (["JAN", "FEB", "MAR", "APR", "MAY", "JUN", "JUL", "AUG", "SEP", "OCT", "NOV", "DEC"].idxOf?
    name).elim 0 (· + 1)

-- What has no number comes first, then what is no number, then numbers.
def compareFloats (a b : List Char) : Ordering :=
  match leadingFloat? true a, leadingFloat? true b with
  | none, none => .eq
  | none, some _ => .lt
  | some _, none => .gt
  | some (f, _), some (g, _) =>
    if f < g then .lt else if g < f then .gt else if f == g then .eq
    else compare (if f.isNaN then 0 else 1) (if g.isNaN then 0 else 1)

-- Parts of names that are digits count as numbers. Letters come before other characters.
def compareVersions : (fuel : Nat) → List Char → List Char → Ordering
  | 0, _, _ => .eq
  | fuel + 1, a, b =>
    if a.isEmpty && b.isEmpty then .eq
    else
      let rank (c : Char) : Nat :=
        if c = '~' then 0 else if c.isAlpha then c.toNat + 2 else c.toNat + 258
      let (p, a) := a.span (!·.isDigit)
      let (q, b) := b.span (!·.isDigit)
      let order := compareRanks rank p q
      if order ≠ .eq then order
      else
        let (m, a) := a.span Char.isDigit
        let (n, b) := b.span Char.isDigit
        let order := compare (ofDigits 10 m) (ofDigits 10 n)
        if order ≠ .eq then order else compareVersions fuel a b
where
  -- The end comes after a tilde and before anything else.
  compareRanks (rank : Char → Nat) : List Char → List Char → Ordering
    | [], [] => .eq
    | [], c :: _ => compare 1 (rank c)
    | c :: _, [] => compare (rank c) 1
    | c :: a, d :: b => (compare (rank c) (rank d)).then (compareRanks rank a b)

-- Whether a text is a row of endings: points with letters behind them.
def isEnding (cs : List Char) : Bool :=
  let isLetter (c : Char) : Bool := c.isAlpha || c = '~'
  match cs with
  | '.' :: r =>
    (r.splitOn '.').all fun part =>
      part.head?.any isLetter && part.all fun c => isLetter c || c.isDigit
  | _ => cs.isEmpty

-- A name without its endings, of which it does not consist as a whole.
def withoutEndings (cs : List Char) : List Char :=
  let sizes := (List.range cs.length).map (· + 1)
  (sizes.find? fun n => isEnding (cs.drop n)).elim cs (cs.take ·)

-- Names with versions in them. The folders themselves and hidden names come first, and endings only
-- count where the names are the same otherwise.
def compareNames (a b : List Char) : Ordering :=
  let rank (cs : List Char) : Nat :=
    match cs with
    | [] => 0
    | ['.'] => 1
    | ['.', '.'] => 2
    | '.' :: _ => 3
    | _ => 4
  let fuel := a.length + b.length + 1
  (compare (rank a) (rank b)).then
    ((compareVersions fuel (withoutEndings a) (withoutEndings b)).then (compareVersions fuel a b))

-- What counts of a text: the characters that are not passed over, in capitals where the case does
-- not matter.
def Style.shown (style : Style) (cs : List Char) : List Char :=
  let kept (c : Char) : Bool :=
    if style.has 'd' then c.isAlphanum || isBlank c
    else !style.has 'i' || (' ' ≤ c && c ≤ '~')
  (cs.filter kept).map fun c => if style.has 'f' then c.toUpper else c

def compareKeys (style : Style) (a b : List Char) : Ordering :=
  let a := style.shown a
  let b := style.shown b
  let order :=
    if style.has 'n' then (amount a).1.compare (amount b).1
    else if style.has 'g' then compareFloats a b
    else if style.has 'h' then
      let (x, r) := amount a
      let (y, t) := amount b
      (compare (magnitude x r) (magnitude y t)).then (x.compare y)
    else if style.has 'M' then compare (month a) (month b)
    else if style.has 'V' then compareNames a b
    else compareTexts a b
  if style.has 'r' then order.swap else order

def compareByKeys (o : Order) (a b : List Char) : Ordering :=
  if o.keys.isEmpty then
    let front (cs : List Char) : List Char :=
      if o.style.has 'b' then cs.dropWhile isBlank else cs
    compareKeys o.style (front a) (front b)
  else
    o.keys.foldl
      (fun order k => order.then
        (compareKeys k.style (k.text o.separator a) (k.text o.separator b))) .eq

-- Lines whose keys are the same are compared as a whole.
def compareLines (o : Order) (a b : List Char) : Ordering :=
  (compareByKeys o a b).then <|
    if o.stable || o.unique then .eq
    else
      let order := compareTexts a b
      if o.style.has 'r' then order.swap else order

-- The first one of neighbouring lines with the same keys.
def firstOfEach (o : Order) : Option (List Char) → List (List Char) → List (List Char)
  | _, [] => []
  | before, l :: ls =>
    if before.any fun b => compareByKeys o b l = .eq then firstOfEach o before ls
    else l :: firstOfEach o (some l) ls

def sorted (o : Order) (lines : List (List Char)) : List (List Char) :=
  let lines := lines.mergeSort fun a b => compareLines o a b != .gt
  if o.unique then firstOfEach o none lines else lines

-- The letters of options that tell how keys are compared.
def styleLetters : List Char :=
  ['b', 'd', 'f', 'g', 'h', 'i', 'M', 'n', 'R', 'r', 'V']

-- A count in a description of a key, and what follows it.
def counted? (what : String) (cs : List Char) : Except String (Nat × List Char) :=
  match leadingInteger? 10 cs with
  | some (.ofNat n, r) => return (n, r)
  | _ => throw (what ++ ": invalid count at start of '" ++ String.ofList cs ++ "'")

-- A key as it is described.
def key? (text : String) : Except String Key := do
  let wrong {α : Type} (what : String) : Except String α :=
    throw (what ++ ": invalid field specification " ++ quoted text)
  let isLetter (c : Char) : Bool := c ∈ styleLetters
  let (field, r) ← counted? "invalid number at field start" text.toList
  if field = 0 then wrong "field number is zero"
  let (char, r) ←
    match r with
    | '.' :: r => do
      let (char, r) ← counted? "invalid number after '.'" r
      if char = 0 then wrong "character offset is zero"
      pure (char, r)
    | r => pure (1, r)
  let (letters, r) := r.span isLetter
  let start : Key := { field := field, char := char, style := ⟨letters⟩ }
  match r with
  | [] => return start
  | ',' :: r =>
    let (last, r) ← counted? "invalid number after ','" r
    if last = 0 then wrong "field number is zero"
    let (lastChar, r) ←
      match r with
      | '.' :: r => counted? "invalid number after '.'" r
      | r => pure (0, r)
    let (more, r) := r.span isLetter
    if !r.isEmpty then wrong "stray character in field spec"
    return { start with
      last := some (last, lastChar), skipsAtEnd := 'b' ∈ more,
      style := ⟨letters ++ more.filter (· ≠ 'b')⟩ }
  | _ => wrong "stray character in field spec"

-- The sign between fields. There may be only one of them.
def separator? (before : Option Char) (text : String) : Except String Char := do
  let c ←
    match text.toList with
    | [] => throw "empty tab"
    | [c] => pure c
    | ['\\', '0'] => pure '\x00'
    | _ => throw ("multi-character tab " ++ quoted text)
  if before.any (· ≠ c) then throw "incompatible tabs"
  return c

def incompatible {α : Type} (letters : List Char) : Except String α :=
  throw ("options '-" ++ String.ofList letters ++ "' are incompatible")

-- Keys are compared in one way only.
def Style.check (style : Style) : Except String Unit := do
  let ways := (['n', 'g', 'h', 'M'].filter style.has).length
  if ways + (if ['V', 'R', 'd', 'i'].any style.has then 1 else 0) > 1 then
    incompatible (styleLetters.filter fun c =>
      style.has c && c ≠ 'b' && c ≠ 'r' && (c ≠ 'i' || !style.has 'd'))

def forms : List OptionForm :=
  [⟨'b', "ignore-leading-blanks", .nothing⟩, ⟨'d', "dictionary-order", .nothing⟩,
   ⟨'f', "ignore-case", .nothing⟩, ⟨'g', "general-numeric-sort", .nothing⟩,
   ⟨'i', "ignore-nonprinting", .nothing⟩, ⟨'M', "month-sort", .nothing⟩,
   ⟨'h', "human-numeric-sort", .nothing⟩, ⟨'n', "numeric-sort", .nothing⟩,
   ⟨'r', "reverse", .nothing⟩, ⟨'V', "version-sort", .nothing⟩, ⟨'c', "", .nothing⟩,
   ⟨'c', "check", .joined⟩,
   ⟨'C', "", .nothing⟩, ⟨'k', "key", .value⟩, ⟨'m', "merge", .nothing⟩,
   ⟨'o', "output", .value⟩, ⟨'s', "stable", .nothing⟩, ⟨'t', "field-separator", .value⟩,
   ⟨'u', "unique", .nothing⟩, ⟨'z', "zero-terminated", .nothing⟩, ⟨'S', "buffer-size", .value⟩,
   ⟨'R', "random-sort", .nothing⟩, ⟨'T', "temporary-directory", .value⟩,
   ⟨'σ', "sort", .value⟩, ⟨'π', "parallel", .value⟩, ⟨'π', "batch-size", .value⟩]

-- The ways to compare by name.
def ways : List (String × Char) :=
  [("general-numeric", 'g'), ("human-numeric", 'h'), ("month", 'M'), ("numeric", 'n'),
   ("random", 'R'), ("version", 'V')]

-- The order that options describe. Keys without letters have those of all keys.
def orderOf (g : Given) : Except String Order := do
  let letters := g.options.filterMap fun o =>
    if o.1 = 'σ' then (ways.find? fun w => w.1.startsWith o.2).map (·.2) else some o.1
  let style : Style := ⟨letters.filter (· ∈ styleLetters)⟩
  let (keys, separator, _) ← g.options.foldlM
    (fun (keys, separator, check) o =>
      match o.1 with
      | 'k' => return (keys ++ [← key? o.2], separator, check)
      | 't' => return (keys, some (← separator? separator o.2), check)
      | 'c' | 'C' =>
        let c := if o.2 = "quiet" || o.2 = "silent" then 'C' else o.1
        if check.any (· ≠ c) then incompatible ['c', 'C'] else return (keys, separator, some c)
      | _ => return (keys, separator, check))
    (([] : List Key), (none : Option Char), (none : Option Char))
  let keys := keys.map fun k =>
    if k.skipsAtEnd || k.style.letters ≠ [] then k
    else { k with style := style, skipsAtEnd := style.has 'b' }
  for s in if keys.isEmpty then [style] else keys.map (·.style) do s.check
  return {
    style := style
    keys := keys
    separator := separator
    stable := g.has 's'
    unique := g.has 'u' }

-- The first line that is not in order, with its number.
def disorder? (o : Order) : (number : Nat) → List (List Char) → Option (Nat × List Char)
  | number, a :: b :: lines =>
    let order := compareLines o a b
    if order = .gt || (o.unique && order = .eq) then some (number + 1, b)
    else disorder? o (number + 1) (b :: lines)
  | _, _ => none

def linesWith (stop : Char) (s : String) : List (List Char) :=
  let parts := s.toList.splitOn stop
  if parts.getLast? = some [] then parts.dropLast else parts

end Sorting

open Sorting in
def sortTool (args : List String) : Work Nat :=
  withOptions "sort" Sorting.forms 2 args fun g => do
    match orderOf g with
    | .error text =>
      toolComplain "sort" text
      return 2
    | .ok o =>
      let stop := if g.has 'z' then '\x00' else '\n'
      let checks := g.last? ['c', 'C']
      if let (some c, _ :: extra :: _) := (checks, g.operands) then
        toolComplain "sort"
          ("extra operand '" ++ extra ++ "' not allowed with -" ++ String.singleton c)
        return 2
      if let (some c, true) := (checks, g.has 'o') then
        toolComplain "sort" ("options '-" ++ String.ofList [c, 'o'] ++ "' are incompatible")
        return 2
      let texts ← readEach "sort" "cannot read: " g.operands
      if texts.any (·.2.isNone) then return 2
      let lines := (texts.filterMap (·.2)).flatMap (linesWith stop)
      if g.has 'c' || g.has 'C' then
        match disorder? o 1 lines with
        | none => return 0
        | some (number, line) =>
          if !g.has 'C' && g.value? 'c' ≠ some "silent" && g.value? 'c' ≠ some "quiet" then
            toolComplain "sort" (g.operands.headD "-" ++ ":" ++ toString number ++
              ": disorder: " ++ String.ofList line)
          return 1
      else
        let ordered := if g.has 'm' && texts.length = 1 then lines else sorted o lines
        let text := String.join (ordered.map fun l => String.ofList (l ++ [stop]))
        match g.value? 'o' with
        | none =>
          print text
          return 0
        | some name =>
          match ← writeNamed name text .write with
          | none => return 0
          | some e =>
            toolComplain "sort" ("open failed: " ++ name ++ ": " ++ e.text)
            return 2

namespace Repetition

-- Where empty lines stand between groups of lines.
inductive Gap
  | none
  | prepend
  | append
  | separate
  | both
  deriving DecidableEq

-- Which lines count as repeated, and which of them are kept.
structure Style where
  counts : Bool := false
  -- of the lines that are the same: the only one, the last one, and those before it
  unique : Bool := true
  last : Bool := true
  others : Bool := false
  gap : Gap := .none
  -- all lines are kept
  grouping : Bool := false
  ignoresCase : Bool := false
  fields : Nat := 0
  chars : Nat := 0
  width : Option Nat := none
  stop : Char := '\n'

def key (style : Style) (line : List Char) : List Char :=
  let cs := (Sorting.afterFields none style.fields line).drop style.chars
  let cs := match style.width with
    | some n => cs.take n
    | none => cs
  if style.ignoresCase then cs.map Char.toLower else cs

-- Neighbouring lines that count as the same.
def groups (style : Style) (lines : List (List Char)) : List (List (List Char)) :=
  lines.splitBy fun a b => key style a == key style b

-- The lines of a group that are kept.
def kept (style : Style) (group : List (List Char)) : List (List Char) :=
  if style.grouping then group
  else
    match group with
    | [l] => if style.unique then [l] else []
    | l :: _ =>
      if style.others then if style.last then group else group.dropLast
      else if style.last then [l] else []
    | [] => []

def written (style : Style) (group : List (List Char)) : List String :=
  (kept style group).map fun l =>
    let count := if style.counts then padLeft 7 (toString group.length) ++ " " else ""
    count ++ String.ofList (l ++ [style.stop])

-- What is kept of lines, with empty lines between groups.
def filtered (style : Style) (lines : List (List Char)) : String :=
  let groups := (groups style lines).filter fun g => style.grouping || !style.others || g.length > 1
  let texts := groups.map fun g => String.join (written style g)
  let gap := String.singleton style.stop
  match style.gap with
  | .none => String.join texts
  | .prepend => String.join (texts.map (gap ++ ·))
  | .append => String.join (texts.map (· ++ gap))
  | .separate => gap.intercalate texts
  | .both => String.join (texts.map (gap ++ ·)) ++ if texts.isEmpty then "" else gap

def forms : List OptionForm :=
  [⟨'c', "count", .nothing⟩, ⟨'d', "repeated", .nothing⟩, ⟨'D', "", .nothing⟩,
   ⟨'D', "all-repeated", .joined⟩,
   ⟨'γ', "group", .joined⟩, ⟨'u', "unique", .nothing⟩, ⟨'i', "ignore-case", .nothing⟩,
   ⟨'f', "skip-fields", .value⟩, ⟨'f', "", .digits⟩, ⟨'s', "skip-chars", .value⟩,
   ⟨'w', "check-chars", .value⟩, ⟨'z', "zero-terminated", .nothing⟩]

-- Where empty lines are to stand. Without a word it is said by default.
def gap? (option word : String) (known : List (String × Gap)) (otherwise : Gap) :
    Except (String × Bool) Gap :=
  if word = "" then .ok otherwise
  else
    match choice? option (known.map (·.1)) word with
    | .ok k => .ok ((known.lookup k).getD otherwise)
    | .error text => .error (text, true)

-- How lines are compared and kept, or what is wrong with the options, and whether that asks for a
-- hint at how they are used.
def style? (g : Given) : Except (String × Bool) Style := do
  let size (letter : Char) (what : String) : Except (String × Bool) (Option Nat) :=
    match g.value? letter with
    | none => .ok none
    | some text =>
      match leadingInteger? 10 text.toList with
      | some (.ofNat n, []) => .ok (some n)
      | _ => .error (text ++ ": invalid number of " ++ what, false)
  let fields ← size 'f' "fields to skip"
  let chars ← size 's' "bytes to skip"
  let width ← size 'w' "bytes to compare"
  let repeated ←
    match g.value? 'D' with
    | some word =>
      gap? "all-repeated" word [("none", .none), ("prepend", .prepend), ("separate", .separate)]
        .none
    | none => .ok .none
  let grouping ←
    match g.value? 'γ' with
    | some word =>
      gap? "group" word
        [("prepend", .prepend), ("append", .append), ("separate", .separate), ("both", .both)]
        .separate
    | none => .ok .none
  return {
    counts := g.has 'c'
    unique := !(g.has 'd' || g.has 'D')
    last := !g.has 'u'
    others := g.has 'D'
    gap := if g.has 'γ' then grouping else repeated
    grouping := g.has 'γ'
    ignoresCase := g.has 'i'
    fields := fields.getD 0
    chars := chars.getD 0
    width := width
    stop := if g.has 'z' then '\x00' else '\n' }

end Repetition

open Repetition in
def uniqTool (args : List String) : Work Nat :=
  withOptions "uniq" Repetition.forms 1 args fun g => do
    match style? g, g.operands with
    | .error (text, hints), _ =>
      toolComplain "uniq" text
      if hints then usageHint "uniq"
      return 1
    | .ok _, _ :: _ :: extra :: _ => misuse "uniq" ("extra operand " ++ quoted extra) 1
    | .ok style, names =>
      if style.grouping && ['c', 'd', 'D', 'u'].any g.has then
        return ← misuse "uniq" "--group is mutually exclusive with -c/-d/-D/-u" 1
      if style.others && style.counts then
        return ← misuse "uniq"
          "printing all duplicated lines and repeat counts is meaningless" 1
      match ← readNamed (names.headD "-") with
      | .error e =>
        toolComplain "uniq" (names.headD "-" ++ ": " ++ e.text)
        return 1
      | .ok text =>
        let out := filtered style (Sorting.linesWith style.stop text)
        match names with
        | [_, target] =>
          match ← writeNamed target out .write with
          | none => return 0
          | some e =>
            toolComplain "uniq" (ShellWord.inFront target ++ ": " ++ e.text)
            return 1
        | _ =>
          print out
          return 0

namespace Common

-- The next step through two sorted texts: a line of the first one alone, of the second one alone,
-- or of both.
inductive Step
  | first (line : List Char)
  | second (line : List Char)
  | both (line : List Char)

def steps : (fuel : Nat) → List (List Char) → List (List Char) → List Step
  | 0, _, _ => []
  | _ + 1, as, [] => as.map .first
  | _ + 1, [], bs => bs.map .second
  | fuel + 1, a :: as, b :: bs =>
    match Sorting.compareTexts a b with
    | .eq => .both a :: steps fuel as bs
    | .lt => .first a :: steps fuel as (b :: bs)
    | .gt => .second b :: steps fuel (a :: as) bs

def Step.column : Step → Nat
  | .first _ => 1
  | .second _ => 2
  | .both _ => 3

def Step.line : Step → List Char
  | .first l | .second l | .both l => l

-- What is left of one of the two texts. The lines that were passed come last first.
structure Text where
  passed : List (List Char) := []
  rest : List (List Char)
  -- its disorder was told
  told : Bool := false

-- Pass a line. Whether two neighbouring ones, at the end those that were checked before, are out of
-- order.
def Text.pass (t : Text) : Text × Bool :=
  let passed := t.rest.take 1 ++ t.passed
  let next : Text := { t with passed := passed, rest := t.rest.drop 1 }
  let isWrong :=
    match next.rest, passed with
    | b :: _, a :: _ | [], b :: a :: _ => Sorting.compareTexts a b = .gt
    | _, _ => false
  (next, isWrong)

-- When the order of lines is checked: never, always, or once a line was found in one text alone.
inductive Check
  | never
  | always
  | whenAlone
  deriving DecidableEq

-- Write lines in their columns as far as their order is right. Whether it was right, and whether
-- all of them were written.
def write (check : Check) (row : Step → Option String) : (alone : Bool) → (a b : Text) → List Step →
    Work (Bool × Bool)
  | _, a, b, [] => return (!a.told && !b.told, true)
  | alone, a, b, step :: more => do
    if let some text := row step then print text
    let alone := alone || step.column ≠ 3
    let checks := check = .always || (check = .whenAlone && alone)
    let turn (number : Nat) (t : Text) : Work (Text × Bool) := do
      let (t, isWrong) := t.pass
      if checks && isWrong && !t.told then
        toolComplain "comm" ("file " ++ toString number ++ " is not in sorted order")
        return ({ t with told := true }, check ≠ .always)
      else return (t, true)
    -- the second text moves on after the first one
    let (a, goesOn) ← if step.column ≠ 2 then turn 1 a else pure (a, true)
    if !goesOn then return (false, false)
    let (b, goesOn) ← if step.column ≠ 1 then turn 2 b else pure (b, true)
    if !goesOn then return (false, false)
    write check row alone a b more

end Common

open Common in
def commTool (args : List String) : Work Nat := do
  let forms := OptionForm.ofLetters "123" ++
    [⟨'z', "zero-terminated", .nothing⟩, ⟨'ω', "output-delimiter", .value⟩,
     ⟨'ν', "nocheck-order", .nothing⟩, ⟨'κ', "check-order", .nothing⟩, ⟨'τ', "total", .nothing⟩]
  withOptions "comm" forms 1 args fun g => do
    match g.operands with
    | [a, b] =>
      let stop := if g.has 'z' then '\x00' else '\n'
      let texts ← readEach "comm" "" [a, b]
      match texts with
      | [(_, some s), (_, some t)] =>
        let left := Sorting.linesWith stop s
        let right := Sorting.linesWith stop t
        let steps := steps (left.length + right.length + 1) left right
        let separator :=
          match g.value? 'ω' with
          | none => "\t"
          | some "" => "\x00"
          | some text => text
        let isShown (n : Nat) : Bool := !g.has (Nat.digitChar n)
        let row (step : Step) : Option String :=
          let n := step.column
          if isShown n then
            let before := ([1, 2].filter fun k => k < n && isShown k).length
            some (String.join (List.replicate before separator) ++
              String.ofList (step.line ++ [stop]))
          else none
        let check := (g.last? ['ν', 'κ']).elim Check.whenAlone fun c =>
          if c = 'ν' then .never else .always
        let (isRight, isWhole) ← write check row false { rest := left } { rest := right } steps
        if g.has 'τ' && isWhole then
          let totals := [1, 2, 3].map fun n =>
            toString (steps.filter (·.column = n)).length ++ separator
          print (String.join totals ++ "total" ++ String.singleton stop)
        if !isRight && isWhole then toolComplain "comm" "input is not in sorted order"
        return if isRight then 0 else 1
      | _ => return 1
    | [] => misuse "comm" "missing operand" 1
    | [a] => misuse "comm" ("missing operand after " ++ quoted a) 1
    | _ :: _ :: c :: _ => misuse "comm" ("extra operand " ++ quoted c) 1

end Rulebook.Script
