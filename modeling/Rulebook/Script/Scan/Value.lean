import Rulebook.Script.Decimal
import Rulebook.Script.Format
import Rulebook.Script.Scan.Program

namespace Rulebook.Script.Scan

-- Values, which are numbers or texts, and what texts are split into.

inductive Value
  | number (x : Float)
  | text (s : String)
  -- a text from outside that looks like a number
  | numeric (s : String) (x : Float)
  | missing
  deriving Inhabited

-- The whole number nearest to zero of those next to a number.
def truncated (x : Float) : Int :=
  match Dyadic.ofFloat? x with
  | none => if x > 0.0 then greatest else least
  | some v =>
    let n : Int := v.numerator / v.denominator
    if v.negative then -n else n

def isWhole (x : Float) : Bool :=
  match Dyadic.ofFloat? x with
  | none => false
  | some v => v.numerator % v.denominator = 0

-- The number in front of a text, and zero if there is none.
def leadingNumber (s : String) : Float :=
  ((leadingFloat? false s.toList).map (·.1)).getD 0.0

-- A number as one argument of a format.
def formatted (format : String) (x : Float) : String :=
  match format.toList with
  | '%' :: r =>
    let (d, cs) := Directive.flags r {}
    let (d, cs, _) := ({ arguments := [] } : Filling).sizes cs d
    match cs with
    | [kind] =>
      if kind ∈ ['d', 'i'] then { d with kind := kind }.ofInteger (truncated x)
      else { d with kind := kind }.ofFloat x
    | _ => format
  | _ => format

-- The text of a number. Whole ones have all of their digits.
def numberText (format : String) (x : Float) : String :=
  if x.isNaN then "-nan"
  else if isWhole x && x.abs < 18446744073709551616.0 then toString (truncated x)
  else formatted format x

namespace Value

-- What has come from outside.
def ofInput (s : String) : Value :=
  match leadingFloat? false s.toList with
  | some (x, rest) =>
    if rest.all isSpace && s.any Char.isDigit then .numeric s x else .text s
  | none => .text s

def ofNat (n : Nat) : Value :=
  .number n.toFloat

def ofBool (b : Bool) : Value :=
  .number (if b then 1.0 else 0.0)

def toNumber : Value → Float
  | number x => x
  | text s => leadingNumber s
  | numeric _ x => x
  | missing => 0.0

def toText (format : String) : Value → String
  | number x => numberText format x
  | text s | numeric s _ => s
  | missing => ""

def isTrue : Value → Bool
  | number x | numeric _ x => x != 0.0
  | text s => s ≠ ""
  | missing => false

def isText : Value → Bool
  | text _ => true
  | _ => false

-- Numbers are compared by their size, and everything else as texts.
def compare (format : String) (c : Comparison) (a b : Value) : Bool :=
  if a.isText || b.isText then
    let s := a.toText format
    let t := b.toText format
    match c with
    | .less => s < t
    | .atMost => !(t < s)
    | .same => s = t
    | .different => s ≠ t
    | .more => t < s
    | .atLeast => !(s < t)
  else
    let x := a.toNumber
    let y := b.toNumber
    match c with
    | .less => x < y
    | .atMost => x ≤ y
    | .same => x == y
    | .different => x != y
    | .more => y < x
    | .atLeast => y ≤ x

end Value

def Operator.apply (o : Operator) (x y : Float) : Float :=
  match o with
  | .add => x + y
  | .subtract => x - y
  | .multiply => x * y
  | .divide => x / y
  | .remainder =>
    if isWhole x && isWhole y && y != 0.0 then Float.ofInt ((truncated x).tmod (truncated y))
    else
      let q := x / y
      x - y * (if q < 0.0 then q.ceil else q.floor)
  | .power => x.pow y

-- The places of the first stretch of a text that an expression fits and that is not empty.
def firstStretch? (r : Regex) (t : Regex.Subject) (start : Nat) : Option (Nat × Nat) :=
  (List.range' start (t.chars.size - start)).findSome? fun i =>
    (r.fitAt? t i).bind fun s => if s.place > i then some (i, s.place) else none

-- The parts of a text between what an expression fits.
def partsBetween (r : Regex) (t : Regex.Subject) : (fuel : Nat) → (start : Nat) → List String
  | 0, start => [t.slice start t.chars.size]
  | fuel + 1, start =>
    match firstStretch? r t start with
    | none => [t.slice start t.chars.size]
    | some (i, stop) => t.slice start i :: partsBetween r t fuel stop

def subject (s : String) : Regex.Subject :=
  { chars := s.toList.toArray }

def partsByRegex (r : Regex) (s : String) : List String :=
  if s = "" then [] else partsBetween r (subject s) (s.length + 1) 0

-- What separates fields. In paragraphs lines do, too.
inductive Separator
  | blanks
  | none
  | char (c : Char)
  | regex (r : Regex)

def Separator.ofText (inParagraphs : Bool) (s : String) : Separator :=
  match s.toList with
  | [' '] => .blanks
  | [] => .none
  | [c] =>
    if inParagraphs then .regex (.either (.char c) (.char '\n'))
    else if c = '\\' then .char '\\' else .char c
  | _ =>
    match Regex.parse { extended := true, controls := true, lenient := true } s with
    | .ok r => .regex (if inParagraphs then .either r (.char '\n') else r)
    | .error _ => .blanks

def Separator.split (separator : Separator) (s : String) : List String :=
  match separator with
  | .blanks => ((s.toList.splitOnP isSpace).filter (!·.isEmpty)).map String.ofList
  | .none => s.toList.map String.singleton
  | .char c => if s = "" then [] else (s.toList.splitOn c).map String.ofList
  | .regex r => partsByRegex r s

-- The first record of a text, and what follows it.
def takeRecord (separator : String) (cs : List Char) : Option (String × List Char) :=
  match separator.toList with
  | [] =>
    match cs.dropWhile (· = '\n') with
    | [] => none
    | cs =>
      let (lines, rest) := paragraph (cs.length + 1) cs
      some ("\n".intercalate lines, rest)
  | [c] =>
    match cs.span (· ≠ c) with
    | ([], []) => none
    | (record, rest) => some (String.ofList record, rest.drop 1)
  | _ =>
    if cs.isEmpty then none
    else
      let s := String.ofList cs
      let t := subject s
      let stretch? :=
        match Regex.parse { extended := true, controls := true, lenient := true } separator with
        | .ok r => firstStretch? r t 0
        | .error _ => none
      match stretch? with
      | some (start, stop) => some (t.slice 0 start, cs.drop stop)
      | none => some (if s.endsWith "\n" then String.ofList cs.dropLast else s, [])
where
  paragraph : (fuel : Nat) → List Char → List String × List Char
    | 0, cs => ([], cs)
    | fuel + 1, cs =>
      match cs.span (· ≠ '\n') with
      | ([], rest) => ([], rest.dropWhile (· = '\n'))
      | (line, rest) =>
        let (lines, rest) := paragraph fuel (rest.drop 1)
        (String.ofList line :: lines, rest)

-- What takes the place of a stretch: an ampersand stands for the stretch, unless there is a
-- backslash before it.
def replacement (found : String) : List Char → String
  | '\\' :: '&' :: r => "&" ++ replacement found r
  | '\\' :: '\\' :: r => "\\" ++ replacement found r
  | '&' :: r => found ++ replacement found r
  | c :: r => String.singleton c ++ replacement found r
  | [] => ""

-- A text with other texts in place of what an expression fits, and how many there are. No empty
-- stretch follows another one right away.
def substitute (r : Regex) (new : List Char) (all : Bool) (t : Regex.Subject) :
    (fuel : Nat) → (place : Nat) → (last : Option Nat) → List String × Nat
  | 0, place, _ => ([t.slice place t.chars.size], 0)
  | fuel + 1, place, last =>
    match r.find? t place with
    | none => ([t.slice place t.chars.size], 0)
    | some (start, s) =>
      let before := t.slice place start
      if s.place > start then
        let put := replacement (t.slice start s.place) new
        let (rest, n) :=
          if all then substitute r new all t fuel s.place (some s.place)
          else ([t.slice s.place t.chars.size], 0)
        (before :: put :: rest, n + 1)
      else
        let skipped := t.slice start (start + 1)
        let counts := last ≠ some start
        let put := if counts then replacement "" new else ""
        let (rest, n) :=
          if all && start < t.chars.size then substitute r new all t fuel (start + 1) none
          else ([t.slice (start + 1) t.chars.size], 0)
        (before :: put :: skipped :: rest, if counts then n + 1 else n)

-- A part of a text from a place on, with so many characters. Places are counted from one.
def portion (s : String) (start : Float) (count : Option Float) : String :=
  let first := truncated start.round
  let stop := match count with
    | some n => truncated (start.round + n.round)
    | none => s.length + 1
  let first := max first 1
  String.ofList ((s.toList.drop (first - 1).toNat).take (stop - first).toNat)

-- The arguments in the places of a format, unless there are too few.
def fill? (format : String) (texts : String) : (fuel : Nat) → List Char → List Value →
    Option String
  | 0, _, _ => some ""
  | _ + 1, [], _ => some ""
  | fuel + 1, '%' :: '%' :: r, vs => (fill? format texts fuel r vs).map ("%" ++ ·)
  | fuel + 1, '%' :: r, vs =>
    let (d, cs) := Directive.flags r {}
    let asked := ((cs.takeWhile fun c => c.isDigit || c = '*' || c = '.').filter (· = '*')).length
    let sizes := (vs.take asked).map fun v => toString (truncated v.toNumber)
    let (d, cs, _) := ({ arguments := sizes } : Filling).sizes cs d
    match cs.dropWhile (· ∈ ['h', 'l', 'L']), vs.drop asked with
    | kind :: rest, v :: vs =>
      (written d kind v).bind fun text => (fill? format texts fuel rest vs).map (text ++ ·)
    | _, _ => none
  | fuel + 1, c :: r, vs => (fill? format texts fuel r vs).map (String.singleton c ++ ·)
where
  written (d : Directive) (kind : Char) (v : Value) : Option String :=
    if kind ∈ ['d', 'i'] then some ({ d with kind := 'd' }.ofInteger (truncated v.toNumber))
    else if kind ∈ ['o', 'x', 'X', 'u'] then
      some ({ d with kind := kind }.ofInteger (truncated v.toNumber))
    else if kind ∈ ['e', 'E', 'f', 'F', 'g', 'G'] then
      some ({ d with kind := kind }.ofFloat v.toNumber)
    else if kind = 's' then some (d.ofString (v.toText texts))
    else if kind = 'c' then
      match v with
      | .text s => some ({ d with precision := none }.ofString (String.ofList (s.toList.take 1)))
      | v =>
        let n := (truncated v.toNumber % 256).toNat
        some ({ d with precision := none }.ofString (String.singleton (Char.ofNat n)))
    else none

-- Elements by their names, the one that was used last first.
abbrev Table := List (String × Value)

-- A number that all characters of a text have a part in.
def mixture (s : String) : Nat :=
  s.toList.foldl (fun h c => (h ^^^ c.toNat) * 16777619 % 4294967296) 2166136261

-- The names of elements in the order of loops, which goes by what is mixed from them.
def Table.names (t : Table) : List String :=
  let keyed := t.map fun (n, _) => (mixture n % 64, n)
  (keyed.mergeSort fun a b => a.1 ≤ b.1).map (·.2)

end Rulebook.Script.Scan
