import Rulebook.Script.Integer
import Rulebook.Script.Pattern

namespace Rulebook.Script

-- Regular expressions, which fit stretches of texts.

inductive Regex
  | empty
  | char (c : Char)
  | any
  | among (set : CharSet)
  | lineStart
  | lineEnd
  | textStart
  | textEnd
  | wordStart
  | wordEnd
  -- an edge of a word, or none
  | wordEdge (there : Bool)
  | sequence (first second : Regex)
  | either (first second : Regex)
  | repeated (r : Regex) (least : Nat) (most : Option Nat)
  | group (number : Nat) (r : Regex)
  -- the same as a group fitted
  | again (number : Nat)
  deriving DecidableEq

namespace Regex

-- How expressions are written and used.
structure Dialect where
  -- brackets and the signs of repetition are special without a backslash
  extended : Bool := false
  -- some letters after a backslash stand for controls
  controls : Bool := false
  -- a sign of repetition without anything to repeat is wrong, and so is one behind another in
  -- expressions that are not extended
  strict : Bool := false
  -- a bracket that closes nothing and bounds that are none stand for themselves
  lenient : Bool := false
  -- ranges that end before they start are wrong, and so are classes without their outer brackets
  checked : Bool := false
  deriving DecidableEq

structure Source where
  rest : List Char
  -- how many groups have been opened, how many of them are not closed, and which ones are
  groups : Nat := 0
  depth : Nat := 0
  closed : List Nat := []

abbrev Reader := StateT Source (Except String)

def skip (n : Nat) : Reader Unit :=
  modify fun s => { s with rest := s.rest.drop n }

-- A sign that brackets groups, separates or repeats. In one dialect it has a backslash, and in the
-- other one it has none.
def sign? (d : Dialect) (cs : List Char) : Option (Char × List Char) :=
  let signs := ['(', ')', '\x7b', '|', '+', '?']
  match cs with
  | '\\' :: c :: r => if !d.extended && c ∈ signs then some (c, r) else none
  | c :: r => if d.extended && c ∈ signs then some (c, r) else none
  | [] => none

def controlChar? (c : Char) : Option Char :=
  [('n', '\n'), ('t', '\t'), ('f', '\x0c'), ('v', '\x0b'), ('a', '\x07'), ('r', '\r')].lookup c

-- A character given by its number after a backslash and a letter, and what follows it.
def numbered? (cs : List Char) : Option (Char × List Char) :=
  let digits (base count : Nat) (r : List Char) : Option (Char × List Char) :=
    let ds := (r.take count).takeWhile (isDigitOf base)
    if ds.isEmpty then none
    else some (Char.ofNat (ofDigits base ds % 256), r.drop ds.length)
  match cs with
  | 'x' :: r => digits 16 2 r
  | 'o' :: r => digits 8 3 r
  | 'd' :: r => digits 10 3 r
  | _ => none

def wordSet (excluded : Bool) : CharSet :=
  { excluded := excluded, ranges := [('_', '_')], classes := ["alnum"] }

def spaceSet (excluded : Bool) : CharSet :=
  { excluded := excluded, classes := ["space"] }

def unmatched : String := "Unmatched [, [^, [:, [., or [="

def bareClass : String := "character class syntax is [[:space:]], not [:space:]"

-- Whether a text in brackets looks like a class.
def isBareClass (cs : List Char) (set : CharSet) : Bool :=
  cs.length > 2 && cs.head? = some ':' && cs.getLast? = some ':' && cs.any (· ≠ ':') &&
    set.classes.isEmpty && set.ranges.all fun (first, last) => first = last

-- The members of a set after its opening bracket. A bracket that comes first does not close it.
def members (d : Dialect) : (fuel : Nat) → (first : Bool) → CharSet → Reader CharSet
  | 0, _, _ => throw unmatched
  | fuel + 1, first, set => do
    match (← get).rest with
    | [] => throw (if first then "Invalid regular expression" else unmatched)
    | ']' :: r =>
      if first then member fuel ']' r set
      else
        skip 1
        return set
    | '[' :: ':' :: r =>
      match r.span (· ≠ ':') with
      | (name, ':' :: ']' :: r) =>
        let name := String.ofList name
        if name ∈ CharSet.classNames then
          modify fun s => { s with rest := r }
          members d fuel false { set with classes := name :: set.classes }
        else throw "Invalid character class name"
      | _ => throw unmatched
    | '[' :: '.' :: c :: '.' :: ']' :: r | '[' :: '=' :: c :: '=' :: ']' :: r =>
      member fuel c r set
    | '[' :: '.' :: r | '[' :: '=' :: r =>
      throw (if isClosed r then "Invalid collation character" else unmatched)
    | '\\' :: c :: r =>
      match if d.controls then controlChar? c else none with
      | some k => member fuel k r set
      | none => member fuel '\\' (c :: r) set
    | c :: r => member fuel c r set
where
  -- Whether the name of a character is closed.
  isClosed : List Char → Bool
    | '.' :: ']' :: _ | '=' :: ']' :: _ => true
    | _ :: r => isClosed r
    | [] => false
  -- A member that may start a range.
  member (fuel : Nat) (c : Char) (r : List Char) (set : CharSet) : Reader CharSet := do
    match r with
    | '-' :: ']' :: _ =>
      modify fun s => { s with rest := r }
      members d fuel false (set.addRange c c)
    | '-' :: e :: r =>
      let (e, r) := match e, r with
        | '[', '.' :: e :: '.' :: ']' :: r => (e, r)
        | e, r => (e, r)
      if d.checked && e < c then throw "Invalid range end"
      modify fun s => { s with rest := r }
      members d fuel false (set.addRange c e)
    | r =>
      modify fun s => { s with rest := r }
      members d fuel false (set.addRange c c)

-- A bound of a repetition: a number, nothing or something else.
inductive Bound
  | number (n : Nat)
  | missing
  | wrong
  deriving DecidableEq

-- What stands behind a bound.
inductive BoundStop
  | comma
  | brace
  | finish
  deriving DecidableEq

-- A bound up to a comma or the closing brace.
def bound (d : Dialect) : (sofar : Bound) → List Char → Bound × BoundStop × List Char
  | _, [] => (.wrong, .finish, [])
  | sofar, ',' :: r => (sofar, .comma, r)
  | sofar, c :: r =>
    match d.extended, c, r with
    | true, '\x7d', r => (sofar, .brace, r)
    | false, '\\', '\x7d' :: r => (sofar, .brace, r)
    | _, _, _ =>
      let next : Bound :=
        if !c.isDigit then .wrong
        else
          match sofar with
          | .number n => .number (min 40000 (10 * n + digitValue c))
          | .missing => .number (digitValue c)
          | .wrong => .wrong
      bound d next r

def wrongBounds : String := "Invalid content of \\\x7b\\\x7d"

def openBounds : String := "Unmatched \\\x7b"

def nothingRepeated : String := "Invalid preceding regular expression"

def tooBig : String := "Regular expression too big"

-- The bounds of a repetition after its opening brace, unless the brace stands for itself.
def bounds? (d : Dialect) (cs : List Char) :
    Except String (Option (Nat × Option Nat × List Char)) :=
  let wrong (stop : BoundStop) : Except String (Option (Nat × Option Nat × List Char)) :=
    if d.lenient then .ok none
    else .error (if stop = .finish then openBounds else wrongBounds)
  let sized (least : Nat) (most : Option Nat) (r : List Char) :
      Except String (Option (Nat × Option Nat × List Char)) :=
    if most.any (· < least) then .error wrongBounds
    else if most.getD least > 32767 then .error tooBig
    else .ok (some (least, most, r))
  match bound d .missing cs with
  | (.wrong, stop, _) => wrong stop
  | (.missing, .brace, _) => .error wrongBounds
  | (.number n, .brace, r) => sized n (some n) r
  | (first, .comma, r) =>
    let least := match first with
      | .number n => n
      | _ => 0
    match bound d .missing r with
    | (.wrong, stop, _) => wrong stop
    | (.number m, .brace, r) => sized least (some m) r
    | (_, .brace, r) => sized least none r
    | _ => .error wrongBounds
  | (_, .finish, _) => wrong .finish

-- Whether an anchor at the end of lines may stand before this.
def endsBranch (d : Dialect) (cs : List Char) : Bool :=
  cs.isEmpty || (sign? d cs).any fun s => s.1 ∈ [')', '|']

-- The repetitions after something. A sign that follows another one may be wrong.
def repetitions (d : Dialect) : (fuel : Nat) → (behind : Bool) → Regex → Reader Regex
  | 0, _, r => return r
  | fuel + 1, behind, r => do
    let rest := (← get).rest
    let wrong := behind && d.strict && !d.extended
    match rest with
    | '*' :: _ =>
      if wrong then throw nothingRepeated
      skip 1
      repetitions d fuel true (.repeated r 0 none)
    | _ =>
      match sign? d rest with
      | some ('+', rest) =>
        modify fun s => { s with rest := rest }
        repetitions d fuel true (.repeated r 1 none)
      | some ('?', rest) =>
        modify fun s => { s with rest := rest }
        repetitions d fuel true (.repeated r 0 (some 1))
      | some ('\x7b', rest) =>
        if wrong then throw nothingRepeated
        match ← bounds? d rest with
        | some (least, most, rest) =>
          modify fun s => { s with rest := rest }
          repetitions d fuel true (.repeated r least most)
        | none => return r
      | _ => return r

-- An anchor is no place in a text that could be repeated.
def isAnchor : Regex → Bool
  | .lineStart | .lineEnd | .textStart | .textEnd | .wordStart | .wordEnd | .wordEdge _ => true
  | _ => false

-- A set after its opening bracket.
def bracketed (d : Dialect) (excluded : Bool) : Reader Regex := do
  let before := (← get).rest
  let set ← members d (before.length + 1) true { excluded := excluded }
  let inside := before.take (before.length - (← get).rest.length - 1)
  if d.checked && isBareClass inside set then throw bareClass
  return .among set

mutual

-- Branches with bars between them.
def branches (d : Dialect) : (fuel : Nat) → Reader Regex
  | 0 => throw tooBig
  | fuel + 1 => do
    let first ← branch d fuel true true
    match sign? d (← get).rest with
    | some ('|', rest) =>
      modify fun s => { s with rest := rest }
      return .either first (← branches d fuel)
    | _ => return first

-- What follows one another, up to a bar or a bracket that closes. So far there may be nothing, or
-- only anchors.
def branch (d : Dialect) : (fuel : Nat) → (first atStart : Bool) → Reader Regex
  | 0, _, _ => throw tooBig
  | fuel + 1, first, atStart => do
    let s ← get
    if s.rest.isEmpty then return .empty
    match sign? d s.rest with
    | some ('|', _) => return .empty
    | some (')', _) =>
      if s.depth = 0 && d.extended && d.lenient then
        skip 1
        return .sequence (← repetitions d fuel false (.char ')')) (← branch d fuel false false)
      else return .empty
    | _ =>
      let r ← atom d fuel first atStart
      if isAnchor r then
        -- where anchors can be repeated, it does not matter how often they are
        if d.strict || (!d.extended && atStart) then
          return .sequence r (← branch d fuel (d.strict && r = .lineStart) true)
        else return .sequence (← repetitions d fuel false r) (← branch d fuel false atStart)
      else return .sequence (← repetitions d fuel false r) (← branch d fuel false false)

def atom (d : Dialect) : (fuel : Nat) → (first atStart : Bool) → Reader Regex
  | 0, _, _ => throw tooBig
  | fuel + 1, first, atStart => do
    let s ← get
    match sign? d s.rest with
    | some ('(', rest) =>
      let number := s.groups + 1
      set { s with rest := rest, groups := number, depth := s.depth + 1 }
      let r ← branches d fuel
      match sign? d (← get).rest with
      | some (')', rest) =>
        modify fun s => { s with
          rest := rest, depth := s.depth - 1, closed := number :: s.closed }
        return .group number r
      | _ => throw "Unmatched ( or \\("
    | some (c, rest) =>
      -- a sign of repetition with nothing before it
      if d.strict && (d.extended || c = '\x7b') then throw nothingRepeated
      modify fun s => { s with rest := rest }
      if d.extended && c ∈ ['+', '?'] then return .empty
      else if d.extended && atStart && c = '\x7b' then
        match ← bounds? d rest with
        | some (_, _, rest) =>
          modify fun s => { s with rest := rest }
          return .empty
        | none => return .char c
      else return .char c
    | none =>
      match s.rest with
      | [] => return .empty
      | '*' :: _ =>
        if d.strict && d.extended then throw nothingRepeated
        skip 1
        if atStart && d.extended then return .empty else return .char '*'
      | '.' :: _ =>
        skip 1
        return .any
      | '[' :: '^' :: _ =>
        skip 2
        bracketed d true
      | '[' :: _ =>
        skip 1
        bracketed d false
      | '^' :: _ =>
        skip 1
        if first || d.extended then return .lineStart else return .char '^'
      | '$' :: r =>
        skip 1
        if d.extended || endsBranch d r then return .lineEnd else return .char '$'
      | ['\\'] => throw "Trailing backslash"
      | '\\' :: c :: r =>
        skip 2
        if '1' ≤ c && c ≤ '9' then
          let n := digitValue c
          if n ∈ s.closed then return .again n else throw "Invalid back reference"
        else
          match if d.controls then controlChar? c else none with
          | some k => return .char k
          | none =>
            match if d.controls then numbered? (c :: r) else none with
            | some (k, rest) =>
              modify fun s => { s with rest := rest }
              return .char k
            | none =>
              match c with
              | 'w' => return .among (wordSet false)
              | 'W' => return .among (wordSet true)
              | 's' => return .among (spaceSet false)
              | 'S' => return .among (spaceSet true)
              | 'b' => return .wordEdge true
              | 'B' => return .wordEdge false
              | '<' => return .wordStart
              | '>' => return .wordEnd
              | '\x60' => return .textStart
              | '\'' => return .textEnd
              | c => return .char c
      | c :: _ =>
        skip 1
        return .char c

end

-- The expression that a text is, or why it is none.
def parse (d : Dialect) (s : String) : Except String Regex := do
  let cs := s.toList
  let (r, left) ← (branches d (6 * cs.length + 6)).run { rest := cs }
  if left.rest.isEmpty then return r else throw "Unmatched ) or \\)"

-- How many groups there are.
def groupCount : Regex → Nat
  | .sequence r s | .either r s => max (groupCount r) (groupCount s)
  | .repeated r _ _ => groupCount r
  | .group number r => max number (groupCount r)
  | _ => 0

-- A text of characters, each of which stands for itself.
def ofText (s : String) : Regex :=
  s.toList.foldr (fun c r => .sequence (.char c) r) .empty

-- A text in which stretches are looked for.
structure Subject where
  chars : Array Char
  ignoresCase : Bool := false
  -- lines start and end inside of the text
  manyLines : Bool := false

-- A stretch that was fitted so far: where it ends, and where the groups start and end.
structure State where
  place : Nat
  groups : List (Nat × Nat × Nat) := []
  deriving DecidableEq

namespace Subject

def char? (t : Subject) (i : Nat) : Option Char :=
  t.chars[i]?

def isWordAt (t : Subject) (i : Nat) : Bool :=
  (t.char? i).any isNameChar

def isWordBefore (t : Subject) (i : Nat) : Bool :=
  i > 0 && t.isWordAt (i - 1)

def same (t : Subject) (c d : Char) : Bool :=
  c = d || (t.ignoresCase && c.toLower = d.toLower)

def contains (t : Subject) (set : CharSet) (c : Char) : Bool :=
  if t.ignoresCase then
    let plain := { set with excluded := false }
    (plain.contains c.toLower || plain.contains c.toUpper) != set.excluded
  else set.contains c

def isStart (t : Subject) (i : Nat) : Bool :=
  i = 0 || (t.manyLines && t.char? (i - 1) = some '\n')

def isEnd (t : Subject) (i : Nat) : Bool :=
  i = t.chars.size || (t.manyLines && t.char? i = some '\n')

end Subject

-- Of the ways to one place only the first one counts, unless a group may be asked for again.
def distinct (exact : Bool) (l : List State) : List State :=
  match l with
  | [] | [_] => l
  | _ =>
    (l.foldl
      (fun seen s =>
        if seen.any fun t => if exact then t = s else t.place = s.place then seen else s :: seen)
      []).reverse

-- All ways to go on from the front of a list of states, the longest ones first.
def closure (exact : Bool) (step : State → List State) : (fuel : Nat) → (most : Option Nat) →
    (seen frontier : List State) → List State
  | 0, _, seen, frontier => frontier ++ seen
  | fuel + 1, most, seen, frontier =>
    if most = some 0 then frontier ++ seen
    else
      let next := frontier.flatMap fun s => (step s).filter (·.place > s.place)
      let next := (distinct exact next).filter fun s =>
        !(seen ++ frontier).any fun t => if exact then t = s else t.place = s.place
      if next.isEmpty then frontier ++ seen
      else closure exact step fuel (most.map (· - 1)) (frontier ++ seen) next

def times (exact : Bool) (step : State → List State) : Nat → List State → List State
  | 0, l => l
  | n + 1, l => times exact step n (distinct exact (l.flatMap step))

-- Whether a stretch of the text is there again at a place.
def matchesAgain (t : Subject) (start stop place : Nat) : Bool :=
  (List.range (stop - start)).all fun k =>
    match t.char? (start + k), t.char? (place + k) with
    | some c, some d => t.same c d
    | _, _ => false

-- The ends of the stretches that an expression fits from a state on.
def ends (exact : Bool) (t : Subject) : Regex → State → List State
  | .empty, s => [s]
  | .char c, s => one s (t.same c)
  | .any, s => one s fun _ => true
  | .among set, s => one s (t.contains set)
  | .lineStart, s => if t.isStart s.place then [s] else []
  | .lineEnd, s => if t.isEnd s.place then [s] else []
  | .textStart, s => if s.place = 0 then [s] else []
  | .textEnd, s => if s.place = t.chars.size then [s] else []
  | .wordStart, s => if !t.isWordBefore s.place && t.isWordAt s.place then [s] else []
  | .wordEnd, s => if t.isWordBefore s.place && !t.isWordAt s.place then [s] else []
  | .wordEdge there, s =>
    if (t.isWordBefore s.place != t.isWordAt s.place) = there then [s] else []
  | .sequence first second, s =>
    distinct exact ((ends exact t first s).flatMap (ends exact t second))
  | .either first second, s => distinct exact (ends exact t first s ++ ends exact t second s)
  | .repeated r least most, s =>
    let start := times exact (ends exact t r) least [s]
    closure exact (ends exact t r) (t.chars.size + 1) (most.map (· - least)) [] start
  | .group number r, s =>
    (ends exact t r s).map fun e =>
      { e with groups := (number, s.place, e.place) :: e.groups.filter (·.1 ≠ number) }
  | .again number, s =>
    match s.groups.lookup number with
    | none => []
    | some (start, stop) =>
      if matchesAgain t start stop s.place then [{ s with place := s.place + (stop - start) }]
      else []
where
  one (s : State) (p : Char → Bool) : List State :=
    match t.char? s.place with
    | some c => if p c then [{ s with place := s.place + 1 }] else []
    | none => []

def asksAgain : Regex → Bool
  | .again _ => true
  | .sequence r s | .either r s => asksAgain r || asksAgain s
  | .repeated r _ _ | .group _ r => asksAgain r
  | _ => false

-- The longest stretch that an expression fits at a place.
def fitAt? (r : Regex) (t : Subject) (start : Nat) : Option State :=
  (ends r.asksAgain t r { place := start }).foldl
    (fun best s => if best.any fun b : State => s.place ≤ b.place then best else some s) none

-- The first stretch that an expression fits at one of so many places, with its start.
def findWithin? (r : Regex) (t : Subject) : (places start : Nat) → Option (Nat × State)
  | 0, _ => none
  | places + 1, start =>
    match r.fitAt? t start with
    | some s => some (start, s)
    | none => findWithin? r t places (start + 1)

-- The first stretch that an expression fits from a place on, with its start.
def find? (r : Regex) (t : Subject) (start : Nat) : Option (Nat × State) :=
  r.findWithin? t (t.chars.size + 1 - start) start

-- Whether an expression fits somewhere.
def isIn (r : Regex) (t : Subject) : Bool :=
  (r.find? t 0).isSome

-- The part of a text between two places.
def Subject.slice (t : Subject) (start stop : Nat) : String :=
  String.ofList (t.chars.extract start stop).toList

end Regex

end Rulebook.Script
